import Klynt.System.RoleReference
import Klynt.System.TenantTrace

set_option relaxedAutoImplicit false
set_option autoImplicit false

/-!
# Calls of the tenant service at the same time

Any number of calls by any actors, whose requests alternate in any order, while requests fail,
time passes and other services act.  A call writes with the tenant, the role and the invite it
has read before, which may have changed or gone since then.  Still the invariants of the tenant
tables hold: an id stands for the same tenant, role or invite as long as the platform runs.

## Main definitions

* `TenantPool`, `TenantPoolInit`, `World.Beside` — the calls, and what happens beside them.
* `Req.Creates`, `Mints` — the requests that create rows, and the UUIDs of those rows.
* `TenantBirth`, `RoleBirth`, `InviteBirth` — what an id was created as.
* `Settled` — the invariant.

## Main results

* `mints_once` — a row is created by one request of one call.
* `settled_of_run` — the invariant holds in every state of every interleaving.
* `owner_stays`, `role_reference_race` — owners are members, and references agree with names.

## Implementation notes

UUIDs are drawn at random; the results assume that no UUID was drawn twice.
-/

namespace Klynt

/-! ## The calls -/

/-- Calls of the tenant service, and the world they act on. -/
abbrev TenantPool (ι : Type) : Type := Pool ι Req Ans TenantError Unit World

/-- A history of the calls. -/
abbrev TenantHistory (ι : Type) : Type := List (TenantPool ι × Pool.Label ι Req Ans)

/-- What happens beside the calls: time passes, other services draw UUIDs and change tables that
are not of the tenant service. -/
structure World.Beside (w w' : World) : Prop where
  /-- The tables of the tenant service stay as they are. -/
  db : w.db.SameTenancy w'.db
  /-- Drawn UUIDs stay drawn. -/
  minted : w.minted <:+ w'.minted
  /-- Time passes. -/
  now : w.now ≤ w'.now

/-- The calls are about to start, and there are no tenants yet. -/
def TenantPoolInit [Unicode] {ι : Type} (enabled : Bool) (backend : SessionBackend)
    (calls : ι → ExecutionContext × TenantCall) (P : TenantPool ι) : Prop :=
  (∀ i, P.threads i = (calls i).2.run (platform enabled backend) (calls i).1) ∧
    P.world.db.NoTenants

/-! ## UUIDs -/

section Drawn

variable {ι : Type} {log : List (ι × Prog.Event Req Ans)} {u : Uuid} {i j : ι}

/-- The UUIDs drawn in a log. -/
def drawnIn (log : List (ι × Prog.Event Req Ans)) : List Uuid :=
  log.filterMap fun e => drawnUuid e.2

/-- A UUID that was drawn once was drawn by one call. -/
lemma drawer_unique (hn : (drawnIn log).Nodup) (hi : (i, uuidEvent u) ∈ log)
    (hj : (j, uuidEvent u) ∈ log) : i = j := by
  by_contra hne
  have hpair : log.Pairwise fun e e' => ∀ v, drawnUuid e.2 = some v →
      ∀ v', drawnUuid e'.2 = some v' → v ≠ v' := List.pairwise_filterMap.mp hn
  have hsymm : Std.Symm fun (e e' : ι × Prog.Event Req Ans) =>
      ∀ v, drawnUuid e.2 = some v → ∀ v', drawnUuid e'.2 = some v' → v ≠ v' :=
    ⟨fun e e' h v hv v' hv' heq => h v' hv' v hv heq.symm⟩
  have hdiff : (i, uuidEvent u) ≠ (j, uuidEvent u) := fun heq => hne (Prod.mk.inj heq).1
  exact hpair.forall hi hj hdiff u rfl u rfl rfl

/-- The UUIDs a call has drawn are among those of the log. -/
lemma drawn_mine [DecidableEq ι] (i : ι) : (drawn (Pool.mine i log)).Sublist (drawnIn log) := by
  have hmap : drawnIn log = drawn (log.map (·.2)) := by
    unfold drawnIn drawn
    rw [List.filterMap_map]
    rfl
  rw [hmap]
  exact (List.filter_sublist.map _).filterMap _

end Drawn

/-- The log draws no more UUIDs than were drawn in the world. -/
lemma drawnIn_sublist {ι : Type} [DecidableEq ι] {init : TenantPool ι → Prop} {F : Req → Prop}
    {tr : TenantHistory ι} {P : TenantPool ι}
    (hr : Run init (Pool.Step (Env F) World.Beside) tr P) :
    (drawnIn (Pool.log tr)).Sublist P.world.minted := by
  induction hr with
  | start hi => exact List.nil_sublist _
  | @snoc older P P' l hrun hstep ih =>
    cases hstep with
    | tick hT => exact ih.trans hT.minted.sublist
    | @run i q k a w hi hE =>
      by_cases hq : drawnUuid ⟨q, a⟩ = none
      · have hsame : drawnIn (Pool.log ((P, some (i, ⟨q, a⟩)) :: older)) =
            drawnIn (Pool.log older) := List.filterMap_cons_none hq
        rw [hsame]
        exact ih.trans hE.minted.sublist
      · obtain ⟨u, hu⟩ := Option.ne_none_iff_exists'.mp hq
        have hnew : drawnIn (Pool.log ((P, some (i, ⟨q, a⟩)) :: older)) =
            u :: drawnIn (Pool.log older) := List.filterMap_cons_some hu
        rw [hnew]
        obtain ⟨rfl, ha⟩ := Sigma.mk.inj (drawnUuid_eq_some.mp hu)
        obtain rfl := eq_of_heq ha
        obtain rfl : w = { P.world with minted := a :: P.world.minted } := hE
        exact ih.cons_cons a

/-- UUIDs that were drawn stay drawn. -/
lemma suffix_minted_of_run {ι : Type} [DecidableEq ι] {init : TenantPool ι → Prop} {F : Req → Prop}
    {tr : TenantHistory ι} {P Q : TenantPool ι} (hinit : ∀ P, init P → P = Q)
    (hr : Run init (Pool.Step (Env F) World.Beside) tr P) :
    Q.world.minted <:+ P.world.minted := by
  refine hr.invariant (I := fun P => Q.world.minted <:+ P.world.minted) ?_ ?_
  · intro P hP
    rw [hinit P hP]
  · intro P l P' hP hstep
    cases hstep with
    | tick hT => exact hP.trans hT.minted
    | run hi hE => exact hP.trans hE.minted

/-! ## Creations -/

/-- Requests that create a tenant, a role or an invite. -/
def Req.Creates : Req → Prop
  | .transaction (.createTenant _ _) | .transaction (.createRole _) => True
  | .update (.insertInvite _) => True
  | _ => False

/-- The UUIDs of the rows a request creates. -/
inductive Mints : Req → Uuid → Prop
  /-- The id of a tenant. -/
  | tenant {tenant : Tenant} {ids : TenantRole → RoleId} :
      Mints (.transaction (.createTenant tenant ids)) tenant.id.inner
  /-- The id of one of its system roles. -/
  | systemRole {tenant : Tenant} {ids : TenantRole → RoleId} (role : TenantRole) :
      Mints (.transaction (.createTenant tenant ids)) (ids role).inner
  /-- The id of a custom role. -/
  | customRole {role : TenantRoleAggregate} :
      Mints (.transaction (.createRole role)) role.id.inner
  /-- The id of an invite. -/
  | invite {inv : InviteRow} : Mints (.update (.insertInvite inv)) inv.id

/-- Requests that mint UUIDs create rows. -/
lemma Mints.creates {q : Req} {u : Uuid} (h : Mints q u) : q.Creates := by
  cases h with
  | tenant => trivial
  | systemRole role => trivial
  | customRole => trivial
  | invite => trivial

/-- Requests that create rows write. -/
lemma Req.Creates.writesDb {q : Req} (h : q.Creates) : q.WritesDb := by
  cases q with
  | update u => trivial
  | transaction t => trivial
  | _ => exact h.elim

section Creations

variable [Unicode] {ctx : ExecutionContext} {call : TenantCall}
  {h : List (Prog.Event Req Ans)} {q : Req} {u : Uuid}

/-- A call creates rows before it has written anything. -/
lemma TenantMay.first (hm : TenantMay ctx h call q) (hq : q.Creates) : NoWrite h := by
  cases hm with
  | aside hs =>
    cases q with
    | update u =>
      cases u with
      | insertInvite row => exact hs.elim
      | _ => exact hq.elim
    | transaction t => exact hs.elim
    | _ => exact hq.elim
  | created _ _ _ hfirst _ => exact hfirst
  | inviteCreated _ hfirst _ _ _ _ _ _ => exact hfirst
  | roleCreated _ hfirst _ _ _ _ => exact hfirst
  | _ => exact hq.elim

/-- A call creates rows under UUIDs it has drawn. -/
lemma TenantMay.drew (hm : TenantMay ctx h call q) (hu : Mints q u) : uuidEvent u ∈ h := by
  cases hm with
  | aside hs =>
    cases hu with
    | invite => exact hs.elim
    | _ => exact hs.elim
  | created _ _ _ _ hids =>
    rw [← mem_drawn, hids]
    cases hu with
    | tenant => simp
    | systemRole role => cases role <;> simp
  | inviteCreated _ _ _ hid _ _ _ _ =>
    cases hu with
    | invite => exact hid
  | roleCreated _ _ hid _ _ _ =>
    cases hu with
    | customRole => exact hid
  | _ => exact nomatch hu

/-- The owner and the roles of a created tenant. -/
lemma TenantMay.minted_roles {tenant : Tenant} {ids : TenantRole → RoleId}
    (hm : TenantMay ctx h call (.transaction (.createTenant tenant ids))) (hn : (drawn h).Nodup) :
    Function.Injective ids := by
  cases hm with
  | aside hs => exact hs.elim
  | created _ _ _ _ hids =>
    rw [hids] at hn
    simp only [List.nodup_cons, List.mem_cons, not_or] at hn
    intro r r' heq
    cases r <;> cases r' <;> simp_all

/-- The log keeps to the traces of the calls. -/
abbrev TenantJustified {ι : Type} [DecidableEq ι] (calls : ι → ExecutionContext × TenantCall)
    (log : List (ι × Prog.Event Req Ans)) : Prop :=
  Pool.Justified (fun i h q => TenantMay (calls i).1 h (calls i).2 q) log

variable {ι : Type} [DecidableEq ι] {calls : ι → ExecutionContext × TenantCall}
  {log : List (ι × Prog.Event Req Ans)}

/-- **A row is created once**: two requests of a log that mint the same UUID are one.

**Proof sketch.** The UUID was drawn once, so both requests are of the call that drew it, and a
call creates rows only while it has written nothing. -/
theorem mints_once (hJ : TenantJustified calls log) (hn : (drawnIn log).Nodup)
    {e e' : ι × Prog.Event Req Ans} (he : e ∈ log) (he' : e' ∈ log) (hm : Mints e.2.1 u)
    (hm' : Mints e'.2.1 u) : e = e' := by
  have hdrew : ∀ {x : ι × Prog.Event Req Ans}, x ∈ log → Mints x.2.1 u →
      (x.1, uuidEvent u) ∈ log := by
    intro x hx hmint
    obtain ⟨newer, older, rfl, hmay⟩ := hJ.of_mem hx
    exact List.mem_append_right _ (List.mem_cons_of_mem _ (Pool.mem_mine.mp (hmay.drew hmint)))
  have hsame : e.1 = e'.1 := drawer_unique hn (hdrew he hm) (hdrew he' hm')
  by_contra hne
  obtain ⟨newer, older, rfl⟩ := List.append_of_mem he
  have honly := Pool.Justified.once (φ := Req.Creates) (i := e.1)
    (fun h q hq hc x hx hcx => hq.first hc x hx hcx.writesDb) hJ hm.creates
  rcases List.mem_append.mp he' with hnew | hold
  · exact honly e' (.inl hnew) hsame.symm hm'.creates
  · rcases List.mem_cons.mp hold with heq | hold
    · exact hne heq.symm
    · exact honly e' (.inr hold) hsame.symm hm'.creates

end Creations

/-! ## What an id stands for -/

/-- A request creates the tenant `t` of `owner`. -/
def TenantBirth (t : TenantId) (owner : UserId) (q : Req) : Prop :=
  ∃ tenant ids, q = .transaction (.createTenant tenant ids) ∧ tenant.id = t ∧
    tenant.ownerId = owner

/-- A request creates the role `id` of the tenant `t` with a name. -/
inductive RoleBirth (id : RoleId) (t : TenantId) (name : String) : Req → Prop
  /-- With its tenant. -/
  | system {tenant : Tenant} {ids : TenantRole → RoleId} {role : TenantRole} (hid : ids role = id)
      (ht : tenant.id = t) (hname : role.asStr = name) :
      RoleBirth id t name (.transaction (.createTenant tenant ids))
  /-- On its own. -/
  | custom {role : TenantRoleAggregate} (hid : role.id = id) (ht : role.tenantId = t)
      (hname : varchar 100 role.name = .ok name) :
      RoleBirth id t name (.transaction (.createRole role))

/-- A request creates the invite `id` to the tenant `t`. -/
def InviteBirth (id : Uuid) (t : TenantId) (q : Req) : Prop :=
  ∃ inv, q = .update (.insertInvite inv) ∧ inv.id = id ∧ inv.tenantId = t

/-- A request of a kind is in the log. -/
def Born {ι : Type} (log : List (ι × Prog.Event Req Ans)) (B : Req → Prop) : Prop :=
  ∃ e ∈ log, B e.2.1

section Born

variable {ι : Type} {log : List (ι × Prog.Event Req Ans)} {B B' : Req → Prop}

/-- What was created stays created. -/
lemma Born.cons (h : Born log B) (e : ι × Prog.Event Req Ans) : Born (e :: log) B := by
  obtain ⟨x, hx, hB⟩ := h
  exact ⟨x, List.mem_cons_of_mem _ hx, hB⟩

/-- What was created in an older part of a log is created. -/
lemma Born.append (h : Born log B) (newer : List (ι × Prog.Event Req Ans)) :
    Born (newer ++ log) B := by
  obtain ⟨x, hx, hB⟩ := h
  exact ⟨x, List.mem_append_right _ hx, hB⟩

variable [Unicode] [DecidableEq ι] {calls : ι → ExecutionContext × TenantCall} {u : Uuid}

/-- Two creations under one UUID are one request. -/
lemma Born.same (hJ : TenantJustified calls log) (hn : (drawnIn log).Nodup)
    (hB : ∀ q, B q → Mints q u) (hB' : ∀ q, B' q → Mints q u) (h : Born log B)
    (h' : Born log B') : ∃ e ∈ log, B e.2.1 ∧ B' e.2.1 := by
  obtain ⟨e, he, hb⟩ := h
  obtain ⟨e', he', hb'⟩ := h'
  obtain rfl := mints_once hJ hn he he' (hB _ hb) (hB' _ hb')
  exact ⟨e, he, hb, hb'⟩

/-- **A tenant id has one owner.** -/
lemma owner_unique (hJ : TenantJustified calls log) (hn : (drawnIn log).Nodup) {t : TenantId}
    {u v : UserId} (h : Born log (TenantBirth t u)) (h' : Born log (TenantBirth t v)) : u = v := by
  have hmint : ∀ w q, TenantBirth t w q → Mints q t.inner := by
    rintro w q ⟨tenant, ids, rfl, rfl, -⟩
    exact .tenant
  obtain ⟨e, -, ⟨tenant, ids, hq, -, rfl⟩, tenant', ids', hq', -, rfl⟩ :=
    Born.same hJ hn (hmint u) (hmint v) h h'
  obtain ⟨rfl, -⟩ := Transaction.createTenant.inj (Req.transaction.inj (hq.symm.trans hq'))
  rfl

/-- **A role id has one tenant and one name.** -/
lemma role_unique (hJ : TenantJustified calls log) (hn : (drawnIn log).Nodup) {id : RoleId}
    {t t' : TenantId} {name name' : String} (h : Born log (RoleBirth id t name))
    (h' : Born log (RoleBirth id t' name')) : t = t' ∧ name = name' := by
  have hmint : ∀ t name q, RoleBirth id t name q → Mints q id.inner := by
    rintro t name q (⟨rfl, -, -⟩ | ⟨rfl, -, -⟩)
    · exact .systemRole _
    · exact .customRole
  obtain ⟨⟨i, q, a⟩, he, hb, hb'⟩ := Born.same hJ hn (hmint t name) (hmint t' name') h h'
  cases hb with
  | @system tenant ids role hid ht hname =>
    cases hb' with
    | @system _ _ role' hid' ht' hname' =>
      obtain ⟨newer, older, rfl, hmay⟩ := hJ.of_mem he
      have hsub : (drawn (Pool.mine i older)).Sublist
          (drawnIn (newer ++ (i, ⟨.transaction (.createTenant tenant ids), a⟩) :: older)) :=
        (drawn_mine i).trans
          (((List.sublist_cons_self _ _).trans (List.sublist_append_right _ _)).filterMap _)
      obtain rfl := hmay.minted_roles (hsub.nodup hn) (hid.trans hid'.symm)
      exact ⟨ht.symm.trans ht', hname.symm.trans hname'⟩
  | custom hid ht hname =>
    cases hb' with
    | custom hid' ht' hname' =>
      exact ⟨ht.symm.trans ht', Except.ok.inj (hname.symm.trans hname')⟩

/-- **An invite id has one tenant.** -/
lemma invite_unique (hJ : TenantJustified calls log) (hn : (drawnIn log).Nodup) {id : Uuid}
    {t t' : TenantId} (h : Born log (InviteBirth id t)) (h' : Born log (InviteBirth id t')) :
    t = t' := by
  have hmint : ∀ t q, InviteBirth id t q → Mints q id := by
    rintro t q ⟨inv, rfl, rfl, -⟩
    exact .invite
  obtain ⟨e, -, ⟨inv, hq, -, rfl⟩, inv', hq', -, rfl⟩ :=
    Born.same hJ hn (hmint t) (hmint t') h h'
  obtain rfl := Update.insertInvite.inj (Req.update.inj (hq.symm.trans hq'))
  rfl

end Born

/-! ## The invariant -/

/-- Every row was created as what it is. -/
structure BornRows {ι : Type} (log : List (ι × Prog.Event Req Ans)) (tenants : List TenantRow)
    (roles : List TenantRoleRow) (invites : List InviteRow) : Prop where
  /-- A tenant was created for its owner. -/
  tenant : ∀ t ∈ tenants, Born log (TenantBirth t.id t.ownerId)
  /-- A role was created for its tenant, with its name. -/
  role : ∀ r ∈ roles, Born log (RoleBirth r.id r.tenantId r.name)
  /-- An invite was created for its tenant. -/
  invite : ∀ i ∈ invites, Born log (InviteBirth i.id i.tenantId)

/-- What a call has read was created as what it read. -/
structure SeenBorn {ι : Type} (log : List (ι × Prog.Event Req Ans))
    (h : List (Prog.Event Req Ans)) : Prop where
  /-- Tenants. -/
  tenant : ∀ s row, queriedEvent (.tenantBySlug s) (some row) ∈ h →
    Born log (TenantBirth row.id row.ownerId)
  /-- Ids of roles. -/
  roleId : ∀ t name id, queriedEvent (.roleIdByName t name) (some id) ∈ h →
    Born log (RoleBirth id t name)
  /-- Roles. -/
  role : ∀ t name r, queriedEvent (.roleByName t name) (some r) ∈ h →
    Born log (RoleBirth r.id t name)
  /-- Invites with their roles. -/
  invite : ∀ token inv roleName, queriedEvent (.inviteByToken token) (some (inv, roleName)) ∈ h →
    Born log (InviteBirth inv.id inv.tenantId) ∧ ∃ role : TenantRole, roleName = role.asStr ∧
      Born log (RoleBirth inv.tenantRoleId inv.tenantId role.asStr)

/-- Every membership refers to a role. -/
def Linked (memberships : List MembershipRow) : Prop :=
  ∀ m ∈ memberships, m.tenantRoleId.isSome = true

/-- **The invariant**: the tenant tables are well formed, references agree with names, every row was
created as what it is, and every membership refers to a role. -/
structure Settled {ι : Type} (log : List (ι × Prog.Event Req Ans)) (db : Db) : Prop where
  /-- Keys, tenants, system roles and owners. -/
  wellFormed : db.WellFormed
  /-- References to roles. -/
  refsOk : db.RefsOk
  /-- Births. -/
  born : BornRows log db.tenants db.tenantRoles db.invites
  /-- Memberships. -/
  linked : Linked db.memberships

section Settled

/-- A new membership that refers to a role. -/
lemma Linked.add {memberships : List MembershipRow} (h : Linked memberships) {m : MembershipRow}
    (hm : m.tenantRoleId.isSome = true) : Linked (memberships ++ [m]) := by
  intro x hx
  rcases List.mem_append.mp hx with hx | hx
  · exact h x hx
  · obtain rfl := List.mem_singleton.mp hx
    exact hm

/-- Fewer memberships. -/
lemma Linked.filter {memberships : List MembershipRow} (h : Linked memberships)
    (p : MembershipRow → Bool) : Linked (memberships.filter p) :=
  fun m hm => h m (List.mem_filter.mp hm).1

/-- A member with another role. -/
lemma Linked.mapMember {memberships : List MembershipRow} (h : Linked memberships) (t : TenantId)
    (u : UserId) (role : String) (id : RoleId) : Linked (memberships.map fun m =>
      if m.hasKey t u then { m with role, tenantRoleId := some id } else m) := by
  intro m' hm'
  obtain ⟨m, hm, rfl⟩ := List.mem_map.mp hm'
  split
  · rfl
  · exact h m hm

variable {ι : Type} {log : List (ι × Prog.Event Req Ans)} {e : ι × Prog.Event Req Ans}

/-- Rows that were edited, or dropped. -/
lemma BornRows.cons {tenants tenants' : List TenantRow} {roles roles' : List TenantRoleRow}
    {invites invites' : List InviteRow} (h : BornRows log tenants roles invites)
    (ht : ∀ t' ∈ tenants', (∃ t ∈ tenants, t.id = t'.id ∧ t.ownerId = t'.ownerId) ∨
      TenantBirth t'.id t'.ownerId e.2.1)
    (hr : ∀ r' ∈ roles', (∃ r ∈ roles, r.id = r'.id ∧ r.tenantId = r'.tenantId ∧
      r.name = r'.name) ∨ RoleBirth r'.id r'.tenantId r'.name e.2.1)
    (hi : ∀ i' ∈ invites', (∃ i ∈ invites, i.id = i'.id ∧ i.tenantId = i'.tenantId) ∨
      InviteBirth i'.id i'.tenantId e.2.1) :
    BornRows (e :: log) tenants' roles' invites' where
  tenant := by
    intro t' ht'
    obtain ⟨t, htm, hid, how⟩ | hb := ht t' ht'
    · rw [← hid, ← how]
      exact (h.tenant t htm).cons e
    · exact ⟨e, List.mem_cons_self, hb⟩
  role := by
    intro r' hr'
    obtain ⟨r, hrm, hid, ht, hname⟩ | hb := hr r' hr'
    · rw [← hid, ← ht, ← hname]
      exact (h.role r hrm).cons e
    · exact ⟨e, List.mem_cons_self, hb⟩
  invite := by
    intro i' hi'
    obtain ⟨i, him, hid, ht⟩ | hb := hi i' hi'
    · rw [← hid, ← ht]
      exact (h.invite i him).cons e
    · exact ⟨e, List.mem_cons_self, hb⟩

/-- The same rows. -/
lemma BornRows.same {tenants : List TenantRow} {roles : List TenantRoleRow}
    {invites : List InviteRow} (h : BornRows log tenants roles invites)
    (e : ι × Prog.Event Req Ans) : BornRows (e :: log) tenants roles invites :=
  h.cons (fun t ht => .inl ⟨t, ht, rfl, rfl⟩) (fun r hr => .inl ⟨r, hr, rfl, rfl, rfl⟩)
    fun i hi => .inl ⟨i, hi, rfl, rfl⟩

/-- A request that leaves the tenant tables alone. -/
lemma Settled.aside {db db' : Db} (h : Settled log db) (hs : db.SameTenancy db')
    (e : ι × Prog.Event Req Ans) : Settled (e :: log) db' := by
  have hw := h.wellFormed.congr hs
  obtain ⟨_, _, _, _, _, rfl⟩ := hs
  exact ⟨hw, h.refsOk, h.born.same e, h.linked⟩

/-- What happens beside the calls. -/
lemma Settled.beside {db db' : Db} (h : Settled log db) (hs : db.SameTenancy db') :
    Settled log db' := by
  have hw := h.wellFormed.congr hs
  obtain ⟨_, _, _, _, _, rfl⟩ := hs
  exact ⟨hw, h.refsOk, h.born, h.linked⟩

/-- A stored role has the name it was created with, without trailing spaces. -/
lemma createRoleTx_name {role : TenantRoleAggregate} {now : Time} {db db' : Db}
    (h : createRoleTx now role db = .ok ((), db')) :
    ∃ name, varchar 100 role.name = .ok name ∧
      db'.tenantRoles = db.tenantRoles ++ [{ TenantRoleRow.ofRole role with name }] := by
  unfold createRoleTx at h
  obtain ⟨_, db₁, hins, h⟩ := Tx.bind_ok.mp h
  have hins := Tx.run_ok.mp hins
  obtain rfl := insertRolePermissions_ok h
  obtain ⟨name, -, -, -, hv, rfl⟩ := insertRole_ok hins
  exact ⟨name, hv, rfl⟩

end Settled

/-! ## One request -/

section Request

variable [Unicode] {ι : Type} [DecidableEq ι] {calls : ι → ExecutionContext × TenantCall}
  {log : List (ι × Prog.Event Req Ans)} {i : ι} {now : Time} {db db' : Db}

/-- What is known when a call issues a request. -/
structure Knows (calls : ι → ExecutionContext × TenantCall) (log : List (ι × Prog.Event Req Ans))
    (i : ι) (db : Db) : Prop where
  /-- The invariant. -/
  settled : Settled log db
  /-- The calls keep to their traces. -/
  justified : TenantJustified calls log
  /-- No UUID was drawn twice. -/
  nodup : (drawnIn log).Nodup
  /-- What the call has read. -/
  seen : SeenBorn log (Pool.mine i log)

/-- **The owner that was read is the owner**, whatever happened since. -/
lemma Knows.owner_eq (h : Knows calls log i db) {ctx : ExecutionContext} {slug name : String}
    {actor : UserId} {row : TenantRow}
    (hcheck : Checked ctx (Pool.mine i log) slug name actor row) :
    ∀ t ∈ db.tenants, t.id = row.id → t.ownerId = row.ownerId := by
  intro t ht hid
  obtain ⟨s, -, hread⟩ := hcheck.found
  have hrow := h.seen.tenant _ _ hread
  have hnow := h.settled.born.tenant t ht
  rw [hid] at hnow
  exact owner_unique h.justified h.nodup hnow hrow

/-- **The role that was read is the role**, if it is still there. -/
lemma Knows.refersTo (h : Knows calls log i db) {id : RoleId} {t : TenantId} {name : String}
    (hread : Born log (RoleBirth id t name)) (hr : ∃ r ∈ db.tenantRoles, r.id = id) :
    RefersTo db.tenantRoles t id name := by
  obtain ⟨r, hr, hid⟩ := hr
  have hnow := h.settled.born.role r hr
  rw [hid] at hnow
  obtain ⟨ht, hname⟩ := role_unique h.justified h.nodup hnow hread
  exact ⟨r, hr, hid, ht, hname⟩

/-- **A statement of a call** keeps the invariant. -/
lemma Knows.update (h : Knows calls log i db) {u : Update} {r : u.Res}
    (hm : TenantMay (calls i).1 (Pool.mine i log) (calls i).2 (.update u))
    (hx : u.exec now db = .ok (r, db')) (e : ι × Prog.Event Req Ans) (he : e.2.1 = .update u) :
    Settled (e :: log) db' := by
  have hw := h.settled.wellFormed
  have hrefs := h.settled.refsOk
  have hb := h.settled.born
  have hbs := hb.same e
  have hl := h.settled.linked
  generalize (calls i).2 = call at hm
  cases hm with
  | aside hs =>
    obtain ⟨_, rfl⟩ := Update.OnSessions.frame hs hx
    exact h.settled.aside ⟨_, _, _, _, _, rfl⟩ e
  | renamed hcheck hfirst hmap =>
    obtain ⟨-, rfl⟩ | ⟨-, name', -, -, rfl⟩ := @updateTenant_ok now _ _ _ _ hx
    · exact ⟨hw, hrefs, hbs, hl⟩
    · have hown := h.owner_eq hcheck
      obtain ⟨_, _, -, -, rfl⟩ := mapTenantRow_eq_ok hmap
      refine ⟨⟨hw.roles.mapTenants fun t => ?_, hw.members.mapTenants fun t ht => ?_⟩, hrefs,
        hb.cons (fun t' ht' => .inl ?_) (fun r hr => .inl ⟨r, hr, rfl, rfl, rfl⟩)
          fun i hi => .inl ⟨i, hi, rfl, rfl⟩, hl⟩
      · split
        · rename_i hid; exact hid.symm
        · rfl
      · split
        · rename_i hid
          exact ⟨hid.symm, (hown t ht hid).symm⟩
        · exact ⟨rfl, rfl⟩
      · obtain ⟨t, ht, rfl⟩ := List.mem_map.mp ht'
        refine ⟨t, ht, ?_⟩
        split
        · rename_i hid
          exact ⟨hid, hown t ht hid⟩
        · exact ⟨rfl, rfl⟩
  | deleted hcheck hfirst =>
    obtain ⟨-, rfl, -⟩ | ⟨-, rfl⟩ := @deleteTenant_ok now _ _ _ _ hx
    · exact ⟨hw, hrefs, hbs, hl⟩
    · refine ⟨⟨hw.roles.dropTenant _, hw.members.dropTenant _⟩, hrefs.dropTenant _,
        hb.cons (fun t ht => .inl ⟨t, (List.mem_filter.mp ht).1, rfl, rfl⟩)
          (fun r hr => .inl ⟨r, (List.mem_filter.mp hr).1, rfl, rfl, rfl⟩)
          fun i hi => .inl ⟨i, (List.mem_filter.mp hi).1, rfl, rfl⟩, hl.filter _⟩
  | memberAdded hcheck hfirst hu hrole =>
    obtain ⟨hkey, htenant, -, hfk, -, rfl⟩ := @insertMembership_ok now _ _ _ _ hx
    have href := h.refersTo (h.seen.roleId _ _ _ hrole) (hfk _ rfl)
    exact ⟨⟨hw.roles, hw.members.addMember hkey htenant⟩, hrefs.addMember rfl rfl href, hbs,
      hl.add rfl⟩
  | inviteUsed hinv hfirst =>
    obtain ⟨hkey, htenant, -, hfk, -, rfl⟩ := @insertMembership_ok now _ _ _ _ hx
    obtain ⟨-, role', rfl, hread⟩ := h.seen.invite _ _ _ hinv.found
    obtain rfl := Except.ok.inj ((TenantRole.parse_asStr role').symm.trans hinv.role)
    have href := h.refersTo hread (hfk _ rfl)
    exact ⟨⟨hw.roles, hw.members.addMember hkey htenant⟩, hrefs.addMember rfl rfl href, hbs,
      hl.add rfl⟩
  | memberUpdated hcheck hfirst hu hrole =>
    by_cases hzero : r = (0 : Nat)
    · subst hzero
      obtain rfl := @updateMembershipRole_zero now _ _ _ _ _ _ hx
      exact ⟨hw, hrefs, hbs, hl⟩
    · obtain ⟨-, hfk, rfl⟩ := @updateMembershipRole_ok now _ _ _ _ _ _ _ hx
      have href := h.refersTo (h.seen.roleId _ _ _ hrole) (hfk hzero)
      refine ⟨⟨hw.roles, hw.members.mapMember (fun t ht hid heq => hu ?_) fun _ => ⟨rfl, rfl⟩⟩,
        hrefs.mapMember href, hbs, hl.mapMember _ _ _ _⟩
      rw [heq]
      exact h.owner_eq hcheck t ht hid
  | memberRemoved hcheck hfirst hu =>
    obtain ⟨-, rfl⟩ := @deleteMembership_ok now _ _ _ _ _ hx
    refine ⟨⟨hw.roles, hw.members.dropMember fun t ht hid heq => hu ?_⟩, hrefs.dropMembers _, hbs,
      hl.filter _⟩
    rw [heq]
    exact h.owner_eq hcheck t ht hid
  | inviteCreated hcheck hfirst hrole hid htenant hroleId hby hpending =>
    obtain ⟨email, -, hnew, -, -, hfk, rfl⟩ := @insertInvite_ok now _ _ _ hx
    have hread := h.seen.role _ _ _ hrole
    rw [← htenant, ← hroleId] at hread
    refine ⟨⟨hw.roles, hw.members⟩, hrefs.addInvite hnew (h.refersTo hread hfk), hb.cons
      (fun t ht => .inl ⟨t, ht, rfl, rfl⟩) (fun r hr => .inl ⟨r, hr, rfl, rfl, rfl⟩) ?_, hl⟩
    intro j hj
    rcases List.mem_append.mp hj with hj | hj
    · exact .inl ⟨j, hj, rfl, rfl⟩
    · obtain rfl := List.mem_singleton.mp hj
      exact .inr ⟨_, he, rfl, rfl⟩
  | @inviteMarked token roleName actor inv role t m hinv hjoined =>
    obtain ⟨-, rfl⟩ := @markInviteAccepted_ok now _ _ _ _ hx
    have hsame : ∀ j : InviteRow, (if j.id = inv.id then
        { j with acceptedAt := some now, updatedAt := now } else j).id = j.id ∧
        (if j.id = inv.id then
          { j with acceptedAt := some now, updatedAt := now } else j).tenantId = j.tenantId ∧
        (if j.id = inv.id then
          { j with acceptedAt := some now, updatedAt := now } else j).tenantRoleId =
          j.tenantRoleId := by
      intro j
      split <;> exact ⟨rfl, rfl, rfl⟩
    refine ⟨⟨hw.roles, hw.members⟩, hrefs.mapInvites hsame, hb.cons (fun t ht => .inl ⟨t, ht, rfl, rfl⟩)
      (fun r hr => .inl ⟨r, hr, rfl, rfl, rfl⟩) ?_, hl⟩
    intro j' hj'
    obtain ⟨j, hj, rfl⟩ := List.mem_map.mp hj'
    exact .inl ⟨j, hj, (hsame j).1.symm, (hsame j).2.1.symm⟩
  | roleDeleted hcheck hfirst =>
    obtain ⟨-, rfl⟩ | ⟨-, hrole, hm, hi, rfl⟩ := @deleteRole_ok now _ _ _ _ _ hx
    · exact ⟨hw, hrefs, hbs, hl⟩
    · refine ⟨⟨hw.roles.dropRole hrole, hw.members⟩, hrefs.dropRole hm hi,
        hb.cons (fun t ht => .inl ⟨t, ht, rfl, rfl⟩)
          (fun r hr => .inl ⟨r, (List.mem_filter.mp hr).1, rfl, rfl, rfl⟩)
          fun i hi => .inl ⟨i, hi, rfl, rfl⟩, hl⟩

/-- **A transaction of a call** keeps the invariant. -/
lemma Knows.transaction (h : Knows calls log i db) {t : Transaction} {r : t.Res}
    (hm : TenantMay (calls i).1 (Pool.mine i log) (calls i).2 (.transaction t))
    (hx : t.exec now db = .ok (r, db')) (e : ι × Prog.Event Req Ans)
    (he : e.2.1 = .transaction t) : Settled (e :: log) db' := by
  have hw := h.settled.wellFormed
  have hrefs := h.settled.refsOk
  have hb := h.settled.born
  have hl := h.settled.linked
  generalize (calls i).2 = call at hm
  cases hm with
  | aside hs => exact hs.elim
  | @created slug name tenant ids actor hctx hslug hnew hfirst hids =>
    obtain ⟨name, rfl, -, hid, -, -, hkey, hnodup, seeds, -, -, rfl⟩ :=
      @createTenantTx_ok now _ _ _ _ _ hw.roles.roleTenant hw.roles.roleIds hx
    have hgrown : RefsOk (db.tenantRoles ++ systemRoleRows now tenant.id ids) db.memberships
        db.invites := hrefs.mapRoles fun _ _ _ => RefersTo.append
    obtain ⟨r, hr, hrid, hrname, -⟩ := find?_systemRoleRows now tenant.id ids .owner
    have howner : RefersTo (db.tenantRoles ++ systemRoleRows now tenant.id ids) tenant.id
        (ids .owner) TenantRole.owner.asStr := by
      obtain ⟨x, -, rfl⟩ := List.mem_map.mp hr
      exact ⟨_, List.mem_append_right _ hr, hrid, rfl, hrname⟩
    refine ⟨⟨hw.roles.addTenant hid hnodup, hw.members.addTenant hkey ⟨rfl, rfl, rfl⟩⟩,
      hgrown.addMember rfl rfl howner, hb.cons ?_ ?_ fun i hi => .inl ⟨i, hi, rfl, rfl⟩, hl.add rfl⟩
    · intro t ht
      rcases List.mem_append.mp ht with ht | ht
      · exact .inl ⟨t, ht, rfl, rfl⟩
      · obtain rfl := List.mem_singleton.mp ht
        exact .inr ⟨tenant, ids, he, rfl, rfl⟩
    · intro r hr
      rcases List.mem_append.mp hr with hr | hr
      · exact .inl ⟨r, hr, rfl, rfl, rfl⟩
      · obtain ⟨x, -, rfl⟩ := List.mem_map.mp hr
        rw [he]
        exact .inr (.system rfl rfl rfl)
  | @roleCreated slug name description permissionIds actor row role hcheck hfirst hid htenant =>
    obtain ⟨name, hnew, hname, hten, rfl⟩ := @createRoleTx_ok now _ _ _ hx
    obtain ⟨name', hvarchar, hrows⟩ := @createRoleTx_name _ now _ _ hx
    obtain rfl : name = name' := by
      have hlast := List.append_cancel_left hrows
      exact congrArg TenantRoleRow.name (List.singleton_inj.mp hlast)
    refine ⟨⟨hw.roles.addRole hnew hname hten, hw.members⟩,
      hrefs.mapRoles fun _ _ _ => RefersTo.append,
      hb.cons (fun t ht => .inl ⟨t, ht, rfl, rfl⟩) ?_ fun i hi => .inl ⟨i, hi, rfl, rfl⟩, hl⟩
    intro r hr
    rcases List.mem_append.mp hr with hr | hr
    · exact .inl ⟨r, hr, rfl, rfl, rfl⟩
    · obtain rfl := List.mem_singleton.mp hr
      rw [he]
      exact .inr (.custom rfl rfl hvarchar)
  | @roleUpdated slug roleId permissionIds actor row hcheck hfirst =>
    obtain ⟨-, rfl⟩ := @updateRolePermissionsTx_ok now _ _ _ _ _ hx
    have hsame : ∀ r : TenantRoleRow, (r.touched row.id roleId now).id = r.id ∧
        (r.touched row.id roleId now).tenantId = r.tenantId ∧
        (r.touched row.id roleId now).name = r.name ∧
        (r.touched row.id roleId now).isSystem = r.isSystem := by
      intro r
      unfold TenantRoleRow.touched
      split <;> exact ⟨rfl, rfl, rfl, rfl⟩
    refine ⟨⟨hw.roles.mapRoles hsame, hw.members⟩, hrefs.mapRoles fun _ _ _ =>
        RefersTo.map fun r => ⟨(hsame r).1, (hsame r).2.1, (hsame r).2.2.1⟩,
      hb.cons (fun t ht => .inl ⟨t, ht, rfl, rfl⟩) ?_ fun i hi => .inl ⟨i, hi, rfl, rfl⟩, hl⟩
    intro r' hr'
    obtain ⟨r, hr, rfl⟩ := List.mem_map.mp hr'
    obtain ⟨hid, ht, hname, -⟩ := hsame r
    exact .inl ⟨r, hr, hid.symm, ht.symm, hname.symm⟩

/-- **A request of a call** keeps the invariant. -/
lemma Knows.request {w w' : World} (h : Knows calls log i w.db) {F : Req → Prop} {q : Req}
    {a : Ans q} (hm : TenantMay (calls i).1 (Pool.mine i log) (calls i).2 q)
    (hE : Env F q w a w') : Settled ((i, ⟨q, a⟩) :: log) w'.db := by
  have hsame := h.settled.aside (.refl w.db) (i, ⟨q, a⟩)
  cases q with
  | update u =>
    rcases hE with ⟨r, db, hx, -, rfl⟩ | ⟨-, -, -, rfl⟩ | ⟨-, -, rfl⟩
    · exact h.update hm hx _ rfl
    · exact hsame
    · exact hsame
  | transaction t =>
    rcases hE with ⟨r, db, hx, -, rfl⟩ | ⟨-, -, -, rfl⟩ | ⟨-, -, rfl⟩
    · exact h.transaction hm hx _ rfl
    · exact hsame
    · exact hsame
  | _ =>
    rw [hE.db_eq id]
    exact hsame

/-- A tenant with its owner's membership is still there. -/
def OwnerKept (t : TenantRow) (m : MembershipRow) (db : Db) : Prop :=
  m ∈ db.memberships ∧ ∃ t' ∈ db.tenants, t'.id = t.id ∧ t'.ownerId = t.ownerId

/-- **A statement of a call keeps the owner's membership**, unless it drops the tenant. -/
lemma Knows.ownerKept (h : Knows calls log i db) {u : Update} {r : u.Res}
    (hm : TenantMay (calls i).1 (Pool.mine i log) (calls i).2 (.update u))
    (hx : u.exec now db = .ok (r, db')) {t : TenantRow} (ht : t ∈ db.tenants) {m : MembershipRow}
    (hmem : m ∈ db.memberships) (hkey : m.hasKey t.id t.ownerId = true)
    (hu : u ≠ .dropTenant t.id) : OwnerKept t m db' := by
  obtain ⟨hmt, hmu⟩ := MembershipRow.hasKey_iff.mp hkey
  -- somebody else than the owner that was read is not the owner
  have hother : ∀ {row : TenantRow} {slug name : String} {actor v : UserId},
      Checked (calls i).1 (Pool.mine i log) slug name actor row → v ≠ row.ownerId →
      ¬ m.hasKey row.id v = true := by
    intro row slug name actor v hcheck hv hk
    obtain ⟨hrt, hrv⟩ := MembershipRow.hasKey_iff.mp hk
    have hown := h.owner_eq hcheck t ht (hmt.symm.trans hrt)
    exact hv (hrv.symm.trans (hmu.trans hown))
  generalize (calls i).2 = call at hm
  cases hm with
  | aside hs =>
    obtain ⟨_, rfl⟩ := Update.OnSessions.frame hs hx
    exact ⟨hmem, t, ht, rfl, rfl⟩
  | renamed hcheck hfirst hmap =>
    obtain ⟨-, rfl⟩ | ⟨-, name', -, -, rfl⟩ := @updateTenant_ok now _ _ _ _ hx
    · exact ⟨hmem, t, ht, rfl, rfl⟩
    · have hown := h.owner_eq hcheck
      obtain ⟨_, _, -, -, rfl⟩ := mapTenantRow_eq_ok hmap
      refine ⟨hmem, _, List.mem_map_of_mem ht, ?_⟩
      split
      · rename_i hid
        exact ⟨hid.symm, (hown t ht hid).symm⟩
      · exact ⟨rfl, rfl⟩
  | @deleted slug actor row hcheck hfirst =>
    have hne : t.id ≠ row.id := fun heq => hu (by rw [heq])
    obtain ⟨-, rfl, -⟩ | ⟨-, rfl⟩ := @deleteTenant_ok now _ _ _ _ hx
    · exact ⟨hmem, t, ht, rfl, rfl⟩
    · exact ⟨List.mem_filter.mpr ⟨hmem, decide_eq_true (hmt.trans_ne hne)⟩, t,
        List.mem_filter.mpr ⟨ht, decide_eq_true hne⟩, rfl, rfl⟩
  | memberAdded hcheck hfirst hv hrole =>
    obtain ⟨-, -, -, -, -, rfl⟩ := @insertMembership_ok now _ _ _ _ hx
    exact ⟨List.mem_append_left _ hmem, t, ht, rfl, rfl⟩
  | inviteUsed hinv hfirst =>
    obtain ⟨-, -, -, -, -, rfl⟩ := @insertMembership_ok now _ _ _ _ hx
    exact ⟨List.mem_append_left _ hmem, t, ht, rfl, rfl⟩
  | memberUpdated hcheck hfirst hv hrole =>
    obtain ⟨-, -, rfl⟩ := @updateMembershipRole_ok now _ _ _ _ _ _ _ hx
    exact ⟨List.mem_map.mpr ⟨m, hmem, if_neg (hother hcheck hv)⟩, t, ht, rfl, rfl⟩
  | memberRemoved hcheck hfirst hv =>
    obtain ⟨-, rfl⟩ := @deleteMembership_ok now _ _ _ _ _ hx
    exact ⟨List.mem_filter.mpr ⟨hmem, decide_eq_true (hother hcheck hv)⟩, t, ht, rfl, rfl⟩
  | inviteCreated hcheck hfirst hrole hid htenant hroleId hby hpending =>
    obtain ⟨_, -, -, -, -, -, rfl⟩ := @insertInvite_ok now _ _ _ hx
    exact ⟨hmem, t, ht, rfl, rfl⟩
  | inviteMarked hinv hjoined =>
    obtain ⟨-, rfl⟩ := @markInviteAccepted_ok now _ _ _ _ hx
    exact ⟨hmem, t, ht, rfl, rfl⟩
  | roleDeleted hcheck hfirst =>
    obtain ⟨-, rfl⟩ | ⟨-, -, -, -, rfl⟩ := @deleteRole_ok now _ _ _ _ _ hx
    · exact ⟨hmem, t, ht, rfl, rfl⟩
    · exact ⟨hmem, t, ht, rfl, rfl⟩

/-- **A transaction of a call keeps the owner's membership.** -/
lemma Knows.ownerKept_transaction (h : Knows calls log i db) {x : Transaction} {r : x.Res}
    (hm : TenantMay (calls i).1 (Pool.mine i log) (calls i).2 (.transaction x))
    (hx : x.exec now db = .ok (r, db')) {t : TenantRow} (ht : t ∈ db.tenants) {m : MembershipRow}
    (hmem : m ∈ db.memberships) : OwnerKept t m db' := by
  have hw := h.settled.wellFormed
  generalize (calls i).2 = call at hm
  cases hm with
  | aside hs => exact hs.elim
  | created hctx hslug hnew hfirst hids =>
    obtain ⟨name, rfl, -, -, -, -, -, -, seeds, -, -, rfl⟩ :=
      @createTenantTx_ok now _ _ _ _ _ hw.roles.roleTenant hw.roles.roleIds hx
    exact ⟨List.mem_append_left _ hmem, t, List.mem_append_left _ ht, rfl, rfl⟩
  | roleCreated hcheck hfirst hid htenant =>
    obtain ⟨_, -, -, -, rfl⟩ := @createRoleTx_ok now _ _ _ hx
    exact ⟨hmem, t, ht, rfl, rfl⟩
  | roleUpdated hcheck hfirst =>
    obtain ⟨-, rfl⟩ := @updateRolePermissionsTx_ok now _ _ _ _ _ hx
    exact ⟨hmem, t, ht, rfl, rfl⟩

end Request

/-! ## Runs -/

section Runs

variable [Unicode] {ι : Type}

omit [Unicode] in
/-- A query that did not fail returned what it returns on the tables. -/
lemma exec_of_queriedEvent {F : Req → Prop} {q : Query} {r : q.Res} {w w' : World}
    (hE : Env F (queriedEvent q r).1 w (queriedEvent q r).2 w') : r = q.exec w.now w.db := by
  rcases hE.2 with hr | ⟨-, m, hr⟩
  · exact Except.ok.inj hr
  · cases hr

omit [Unicode] in
/-- What was read in states that satisfied the invariant was created as what was read. -/
lemma seenBorn_of_past {log : List (ι × Prog.Event Req Ans)} {h : List (Prog.Event Req Ans)}
    (hpast : ∀ q r, queriedEvent q r ∈ h → ∃ (newer older : List (ι × Prog.Event Req Ans))
      (w : World), log = newer ++ older ∧ Settled older w.db ∧ r = q.exec w.now w.db) :
    SeenBorn log h where
  tenant := by
    intro s row hread
    obtain ⟨newer, older, w, rfl, hs, hr⟩ := hpast _ _ hread
    exact (hs.born.tenant row (List.mem_of_find?_eq_some hr.symm)).append newer
  roleId := by
    intro t name id hread
    obtain ⟨newer, older, w, rfl, hs, hr⟩ := hpast _ _ hread
    obtain ⟨r, hfound, rfl⟩ := Option.map_eq_some_iff.mp hr.symm
    obtain ⟨hmem, rfl, rfl⟩ := Db.of_roleNamed? hfound
    exact (hs.born.role r hmem).append newer
  role := by
    intro t name agg hread
    obtain ⟨newer, older, w, rfl, hs, hr⟩ := hpast _ _ hread
    obtain ⟨r, hfound, rfl⟩ := Option.map_eq_some_iff.mp hr.symm
    obtain ⟨hmem, rfl, rfl⟩ := Db.of_roleNamed? hfound
    exact (hs.born.role r hmem).append newer
  invite := by
    intro token inv roleName hread
    obtain ⟨newer, older, w, rfl, hs, hr⟩ := hpast _ _ hread
    have hmem := (Db.of_invite? hr.symm).1
    obtain ⟨r, hrmem, hrid, rfl⟩ := Db.role_of_invite? hr.symm
    obtain ⟨role, r', hr', hrid', hrt, hrname⟩ := hs.refsOk.invite inv hmem
    -- ids of roles are unique, so the joined row is the one the invite refers to
    obtain rfl := Keyed.eq_of_key_eq _ hs.wellFormed.roles.roleIds hrmem hr' (hrid.trans hrid'.symm)
    have hborn := hs.born.role r hrmem
    rw [hrid, hrt, hrname] at hborn
    exact ⟨(hs.born.invite inv hmem).append newer, role, hrname, hborn.append newer⟩

variable [DecidableEq ι] {enabled : Bool} {backend : SessionBackend} {F : Req → Prop}
  {calls : ι → ExecutionContext × TenantCall} {tr : TenantHistory ι} {P : TenantPool ι}

/-- The log keeps to the traces of the calls. -/
lemma tenantJustified_of_run
    (hr : Run (TenantPoolInit enabled backend calls) (Pool.Step (Env F) World.Beside) tr P) :
    TenantJustified calls (Pool.log tr) := by
  refine Pool.justified_of_run (Q := fun _ _ _ => True) (fun P hi i => ?_) hr
  rw [hi.1 i]
  exact TenantCall.traced enabled backend (calls i).2

/-- What a call has read was created as it read it, if all shorter runs keep the invariant. -/
lemma seenBorn_of_run
    (hr : Run (TenantPoolInit enabled backend calls) (Pool.Step (Env F) World.Beside) tr P)
    (hn : P.world.minted.Nodup)
    (hall : ∀ older Q, older.length < tr.length →
      Run (TenantPoolInit enabled backend calls) (Pool.Step (Env F) World.Beside) older Q →
      Q.world.minted.Nodup → Settled (Pool.log older) Q.world.db) (i : ι) :
    SeenBorn (Pool.log tr) (Pool.mine i (Pool.log tr)) := by
  refine seenBorn_of_past fun q r hread => ?_
  obtain ⟨newer, Q, older, m, rfl, hold, hE, hnew⟩ := Pool.event_of_log hr (Pool.mem_mine.mp hread)
  have hnQ : Q.world.minted.Nodup :=
    (hE.minted.trans (suffix_minted_of_run (fun _ h => h) hnew)).sublist.nodup hn
  refine ⟨Pool.log newer ++ [(i, queriedEvent q r)], Pool.log older, Q.world, by simp,
    hall older Q ?_ hold hnQ, exec_of_queriedEvent hE⟩
  rw [List.length_append, List.length_cons]
  omega

/-- **The invariant holds in every state of every interleaving.**

**Proof sketch.** Strong induction on the run.  What a call has read was read in an earlier state
of the run, in which the invariant held; so what it read was created as it read it, and what has
the same id now was created by the same request. -/
theorem settled_of_run
    (hr : Run (TenantPoolInit enabled backend calls) (Pool.Step (Env F) World.Beside) tr P)
    (hn : P.world.minted.Nodup) : Settled (Pool.log tr) P.world.db := by
  refine hr.strong (I := fun tr P => P.world.minted.Nodup → Settled (Pool.log tr) P.world.db)
    ?_ hn
  intro tr P hrun ih hn
  cases hrun with
  | start hi =>
    refine ⟨hi.2.wellFormed, ?_, ?_, ?_⟩
    · unfold Db.RefsOk
      rw [hi.2.memberships, hi.2.invites]
      exact RefsOk.nil
    · rw [hi.2.tenants, hi.2.tenantRoles, hi.2.invites]
      exact ⟨nofun, nofun, nofun⟩
    · rw [hi.2.memberships]
      exact nofun
  | @snoc older Q _ l hold hstep =>
    have hlt : older.length < ((Q, l) :: older).length := Nat.lt_succ_self _
    cases hstep with
    | tick hT => exact (ih older Q hlt hold (hT.minted.sublist.nodup hn)).beside hT.db
    | @run i q k a w hi hE =>
      have hnQ : Q.world.minted.Nodup := hE.minted.sublist.nodup hn
      have hjust := tenantJustified_of_run (hold.snoc (.run (T := World.Beside) hi hE))
      have hk : Knows calls (Pool.log older) i Q.world.db :=
        { settled := ih older Q hlt hold hnQ
          justified := hjust.2
          nodup := (drawnIn_sublist hold).nodup hnQ
          seen := seenBorn_of_run hold hnQ
            (fun older' Q' hshort => ih older' Q' (hshort.trans hlt)) i }
      exact hk.request hjust.1 hE

/-- What is known when a call issues its next request. -/
lemma knows_of_run
    (hr : Run (TenantPoolInit enabled backend calls) (Pool.Step (Env F) World.Beside) tr P)
    (hn : P.world.minted.Nodup) (i : ι) : Knows calls (Pool.log tr) i P.world.db where
  settled := settled_of_run hr hn
  justified := tenantJustified_of_run hr
  nodup := (drawnIn_sublist hr).nodup hn
  seen := seenBorn_of_run hr hn (fun _ _ _ hold hnQ => settled_of_run hold hnQ) i

/-- **The owner of a tenant is a member, whatever happens at the same time.** In every state of
every interleaving of calls, every tenant has exactly one membership row of its owner, whose role
is `owner`; and the next step, a request of a call or a move of the others, keeps that row, the
tenant and its owner, unless it is the deletion of this tenant.

**Proof sketch.** `settled_of_run`.  A call compares its target with the owner it has read, and a
tenant id has one owner as long as the platform runs (`owner_unique`). -/
theorem owner_stays
    (hr : Run (TenantPoolInit enabled backend calls) (Pool.Step (Env F) World.Beside) tr P)
    (hn : P.world.minted.Nodup) :
    (∀ t ∈ P.world.db.tenants, ∃ m,
      P.world.db.memberships.filter (·.hasKey t.id t.ownerId) = [m] ∧
        TenantRole.parse m.role = .ok .owner) ∧
    ∀ l P', Pool.Step (Env F) World.Beside P l P' → ∀ t ∈ P.world.db.tenants,
      ∀ m ∈ P.world.db.memberships, m.hasKey t.id t.ownerId = true →
        OwnerKept t m P'.world.db ∨ ∃ i a, l = some (i, ⟨.update (.dropTenant t.id), a⟩) := by
  have hw := (settled_of_run hr hn).wellFormed
  refine ⟨fun t ht => ?_, fun l P' hstep t ht m hm hkey => ?_⟩
  · obtain ⟨m, hm, hmt, hmu, hrole⟩ := hw.members.owner t ht
    refine ⟨m, ?_, by rw [hrole]; exact TenantRole.parse_asStr .owner⟩
    refine Eq.trans (List.filter_congr fun x _ => ?_) (Keyed.filter_key_eq _ hw.members.keys hm)
    rw [Bool.eq_iff_iff, MembershipRow.hasKey_iff, decide_eq_true_eq, Prod.mk.injEq, hmt, hmu]
  · have hsame : OwnerKept t m P.world.db := ⟨hm, t, ht, rfl, rfl⟩
    cases hstep with
    | tick hT =>
      obtain ⟨_, _, _, _, _, hdb⟩ := hT.db
      refine .inl ?_
      rw [hdb]
      exact hsame
    | @run i q k a w hi hE =>
      have hk := knows_of_run hr hn i
      have hmay := (tenantJustified_of_run (hr.snoc (.run (T := World.Beside) hi hE))).1
      cases q with
      | update u =>
        rcases hE with ⟨r, db, hx, -, rfl⟩ | ⟨-, -, -, rfl⟩ | ⟨-, -, rfl⟩
        · by_cases hu : u = .dropTenant t.id
          · subst hu
            exact .inr ⟨i, a, rfl⟩
          · exact .inl (hk.ownerKept hmay hx ht hm hkey hu)
        · exact .inl hsame
        · exact .inl hsame
      | transaction x =>
        rcases hE with ⟨r, db, hx, -, rfl⟩ | ⟨-, -, -, rfl⟩ | ⟨-, -, rfl⟩
        · exact .inl (hk.ownerKept_transaction hmay hx ht hm)
        · exact .inl hsame
        · exact .inl hsame
      | _ =>
        refine .inl ?_
        rw [hE.db_eq id]
        exact hsame

/-- **The two columns of a member's role agree, whatever happens at the same time.** In every state
of every interleaving of calls, every membership refers to an existing role of its tenant whose name
is the text of the membership, and authorization, which looks the text up, finds that role; and an
invite refers to an existing role of its tenant with a canonical name.

**Proof sketch.** `settled_of_run`.  A call writes the id of a role that it has read under a name;
if the role is still there, it has that name, since an id stands for one role (`role_unique`). -/
theorem role_reference_race
    (hr : Run (TenantPoolInit enabled backend calls) (Pool.Step (Env F) World.Beside) tr P)
    (hn : P.world.minted.Nodup) :
    (∀ m ∈ P.world.db.memberships, ∃ id, m.tenantRoleId = some id ∧
      ∃ r ∈ P.world.db.tenantRoles, r.id = id ∧ r.tenantId = m.tenantId ∧ r.name = m.role ∧
        ∃ role, TenantRole.parse m.role = .ok role ∧
          P.world.db.roleNamed? m.tenantId role.asStr = some r ∧
          P.world.db.roleOf? m.tenantId id = some r) ∧
    ∀ inv ∈ P.world.db.invites, ∃ role : TenantRole,
      RefersTo P.world.db.tenantRoles inv.tenantId inv.tenantRoleId role.asStr := by
  have hs := settled_of_run hr hn
  refine ⟨fun m hm => ?_, hs.refsOk.invite⟩
  obtain ⟨id, hid⟩ := Option.isSome_iff_exists.mp (hs.linked m hm)
  obtain ⟨r, hrmem, hrid, hrt, hrname⟩ := hs.refsOk.member m hm id hid
  obtain ⟨role, hrole⟩ := hs.refsOk.named m hm
  obtain ⟨hbyName, hbyId⟩ := hs.wellFormed.role_found hrmem
  rw [hrt, hrname, hrole] at hbyName
  rw [hrt, hrid] at hbyId
  refine ⟨id, hid, r, hrmem, hrid, hrt, hrname, role, ?_, hbyName, hbyId⟩
  rw [hrole, TenantRole.parse_asStr]

end Runs

namespace Scenario

/-- The owner creates a tenant, makes bob an admin and then a guest; bob adds eve. -/
def racingCalls : Fin 4 → ExecutionContext × TenantCall
  | 0 => (ctx 901, .createTenant "acme" "Acme")
  | 1 => (ctx 901, .addMember "acme" "bob@x.org" .admin)
  | 2 => (ctx 901, .updateMemberRole "acme" "bob@x.org" .guest)
  | 3 => (ctx 902, .addMember "acme" "eve@x.org" .member)

/-- The calls, with their requests in a given order. -/
def racedTenants (turns : List (Fin 4)) : TenantHistory (Fin 4) × TenantPool (Fin 4) :=
  letI := Unicode.ascii
  Pool.schedule World.answer turns
    { threads := fun i => (racingCalls i).2.run (platform true .database) (racingCalls i).1, world } []

/-- They are an interleaving. -/
theorem run_racedTenants (turns : List (Fin 4)) : letI := Unicode.ascii
    Run (TenantPoolInit true .database racingCalls) (Pool.Step (Env noFault) World.Beside)
      (racedTenants turns).1 (racedTenants turns).2 :=
  let := Unicode.ascii
  Pool.run_schedule (fun q w => env_answer noFault q w) turns
    (.start ⟨fun _ => rfl, rfl, rfl, rfl, rfl, rfl⟩)

/-- Bob has been checked as an admin, and is a guest when he adds eve. -/
def lateAddition : List (Fin 4) :=
  List.replicate 9 0 ++ List.replicate 10 1 ++ List.replicate 5 3 ++ List.replicate 11 2 ++
    List.replicate 5 3

end Scenario

/-- The owner is still the owner after all of these calls. -/
theorem owner_stays_raced : letI := Unicode.ascii
    let P := (Scenario.racedTenants Scenario.lateAddition).2
    P.world.db.memberships.map (·.role) = ["owner", "guest", "member"] ∧
      P.world.db.tenants.length = 1 ∧
      ∀ t ∈ P.world.db.tenants, ∃ m, P.world.db.memberships.filter (·.hasKey t.id t.ownerId) = [m] ∧
        TenantRole.parse m.role = .ok .owner :=
  let := Unicode.ascii
  have h : (Scenario.racedTenants Scenario.lateAddition).2.world.db.memberships.map (·.role) =
        ["owner", "guest", "member"] ∧
      (Scenario.racedTenants Scenario.lateAddition).2.world.db.tenants.length = 1 ∧
      (Scenario.racedTenants Scenario.lateAddition).2.world.minted.Nodup := by decide +kernel
  ⟨h.1, h.2.1, (owner_stays (Scenario.run_racedTenants Scenario.lateAddition) h.2.2).1⟩

/-- All references agree with the names after these calls. -/
theorem role_reference_raced : letI := Unicode.ascii
    let P := (Scenario.racedTenants Scenario.lateAddition).2
    P.world.db.memberships.length = 3 ∧
      ∀ m ∈ P.world.db.memberships, ∃ id, m.tenantRoleId = some id ∧
        ∃ r ∈ P.world.db.tenantRoles, r.id = id ∧ r.tenantId = m.tenantId ∧ r.name = m.role := by
  let := Unicode.ascii
  obtain ⟨hlength, hn⟩ :
      (Scenario.racedTenants Scenario.lateAddition).2.world.db.memberships.length = 3 ∧
      (Scenario.racedTenants Scenario.lateAddition).2.world.minted.Nodup := by decide +kernel
  refine ⟨hlength, fun m hm => ?_⟩
  obtain ⟨id, hid, r, hr, hrid, hrt, hrname, -⟩ := (role_reference_race
    (Scenario.run_racedTenants Scenario.lateAddition) hn).1 m hm
  exact ⟨id, hid, r, hr, hrid, hrt, hrname⟩

end Klynt
