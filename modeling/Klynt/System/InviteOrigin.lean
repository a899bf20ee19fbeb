import Klynt.Domain.Email
import Klynt.System.RoleReference

set_option relaxedAutoImplicit false
set_option autoImplicit false

/-!
# Where accepted invites come from

An invite is accepted by its token.  The row that is found was stored by an earlier call that
creates invites, for the address of the actor, and the role it refers to still has the name it was
created with: no call renames a role, and a role an invite refers to is not deleted.

## Main definitions

* `Invitation` — an invite is what a call that creates invites stores.
* `Invited` — an earlier call stored an invite for a role.
* `Pending` — an earlier call stored an invite, which refers to a role of the name given there.
* `InviteRow.Addressed` — the address of an invite is a parsed one.

## Main results

* `pending_of_run` — in every state of a run, invites are of this kind.
* `invited_of_acceptable` — who accepts an invite gets the role it was created for.
* `invite_soundness` — what an accepted invite implies, and how addresses compare.
* `lost_invite_accepted` — an invite whose creation failed is accepted.
-/

namespace Klynt

variable [Unicode] {F : Req → Prop} {w w' : World} {ctx : ExecutionContext}

/-! ## Addresses in columns -/

/-- A column stores a parsed address as it is. -/
lemma varchar_text (laws : LowercaseLaws) {n : Nat} {raw stored : String} {email : Email}
    (h : Email.parse raw = .ok email) (hstored : varchar n email.text = .ok stored) :
    stored = email.text := by
  obtain ⟨-, ⟨-, rfl⟩ | ⟨hlong, hspaces, -⟩⟩ := varchar_eq_ok.mp hstored
  · rfl
  · -- the last character would be cut off, and so be a space
    have hne : email.text.toList.drop n ≠ [] := by
      rw [ne_eq, List.drop_eq_nil_iff, not_le]
      exact hlong
    have hlast := List.getLast_mem hne
    have hspace : (email.text.toList.drop n).getLast hne = ' ' := by
      simpa using List.all_eq_true.mp hspaces _ hlast
    have htrimmed := Email.trimmed_text laws h ' ' (.inr ?_)
    · cases htrimmed
    · rw [← hspace, List.getLast_drop, List.getLast?_eq_some_getLast]

/-! ## Creation -/

/-- An invite that cannot be read is one whose query may fail. -/
lemma ensures_findByToken (token : String) :
    (PgTenantInviteRepository.findByToken token).Ensures (Env F) (fun r w' => w' = w ∧
      (r = .ok ((w.db.invite? token).map mapInviteRow) ∨
        (∃ e, r = .error e) ∧ F (.query (.inviteByToken token)))) w := by
  refine Prog.wp_bind.mpr (Prog.wp_mapErr.mpr ?_)
  refine (ensures_select (q := .inviteByToken token)).mpr ⟨?_, fun hF m => ?_⟩
  · exact Prog.wp_pure.mpr ⟨rfl, .inl rfl⟩
  · exact ⟨rfl, .inr ⟨⟨_, rfl⟩, hF⟩⟩

/-- The row of an invite is what a call that creates invites stores. -/
structure Invitation (db : Db) (now : Time) (slug email : String) (role : TenantRole)
    (inv : InviteRow) : Prop where
  /-- The tenant is the one the slug names. -/
  tenant : ∃ row, db.tenantNamed? slug = some row ∧ row.id = inv.tenantId
  /-- The inviter may manage members. -/
  permitted : db.Grants inv.tenantId inv.invitedBy Permission.manageMembers
  /-- The address is the parsed one. -/
  address : ∃ address, Email.parse email = .ok address ∧ varchar 255 address.text = .ok inv.email
  /-- The role is the one of the tenant with the given name. -/
  role : ∃ r, db.roleNamed? inv.tenantId role.asStr = some r ∧ r.id = inv.tenantRoleId
  /-- The invite can be accepted for seven days. -/
  expires : inv.expiresAt = now + days TenantService.inviteExpiresDays
  /-- The invite is not accepted yet. -/
  pending : inv.acceptedAt = none

omit [Unicode] in
/-- An invite with a new token is found by it. -/
lemma invite?_append {db : Db} {inv : InviteRow} (htoken : ∀ i ∈ db.invites, i.token ≠ inv.token)
    (hrole : ∃ r ∈ db.tenantRoles, r.id = inv.tenantRoleId) :
    ∃ roleName, ({ db with invites := db.invites ++ [inv] } : Db).invite? inv.token =
      some (inv, roleName) := by
  have hrow : (db.invites ++ [inv]).find? (·.token = inv.token) = some inv := by
    have hold : db.invites.find? (·.token = inv.token) = none :=
      List.find?_eq_none.mpr fun i hi => by simpa using htoken i hi
    rw [List.find?_append, hold]
    simp
  obtain ⟨r, hr, hid⟩ := hrole
  cases hfind : db.tenantRoles.find? (·.id = inv.tenantRoleId) with
  | none => exact absurd (decide_eq_true hid) (List.find?_eq_none.mp hfind r hr)
  | some role =>
    refine ⟨role.name, ?_⟩
    simp only [Db.invite?, hrow, hfind, bind, Option.bind, pure]

/-- **What the creation of an invite does.** It stores nothing and fails, or it stores one invite
with a new token; then it fails only if the invite cannot be read back. -/
lemma ensures_createInvite (slug email : String) (role : TenantRole) :
    (TenantService.createInvite ctx slug email role).Ensures (Env F) (fun r w' =>
      w'.db = w.db ∨ ∃ inv, ctx.actorId = some inv.invitedBy.inner ∧
        Invitation w.db w.now slug email role inv ∧ (∀ i ∈ w.db.invites, i.token ≠ inv.token) ∧
        w'.db = { w.db with invites := w.db.invites ++ [inv] } ∧
        ((∃ created, r = .ok created) ∨ F (.query (.inviteByToken inv.token)))) w := by
  refine ensures_guarded (fun _ => .inl rfl) fun actor row tenant hctx hrow hmap hgrant => ?_
  refine (Prog.reads_done _).bind_ensures (fun _ => .inl rfl) fun address haddress => ?_
  rw [mapTenantRow_id hmap]
  refine PgRoleRepository.reads_findRoleByName.mapErr.bind_ensures
    (fun _ => .inl rfl) fun found hfound => ?_
  refine (Prog.reads_ofOption _ _).bind_ensures (fun _ => .inl rfl) fun aggregate hagg => ?_
  obtain ⟨r, hr, hid⟩ := Option.map_eq_some_iff.mp (hfound.symm.trans hagg)
  refine reads_generateSecureToken.bind_ensures (fun _ => .inl rfl) fun token _ => ?_
  refine reads_now.bind_ensures (fun _ => .inl rfl) fun t ht => ?_
  refine Prog.wp_bind.mpr (ensures_newUuid fun id => ?_)
  refine Prog.wp_mapErr.mpr ((writes_execute _).mapErr.bind_ensures (fun _ => .inl rfl) ?_)
  rintro _ w₁ ⟨db, h, rfl⟩
  obtain ⟨stored, hstored, -, htoken, -, hexists, rfl⟩ := @insertInvite_ok w.now _ _ _ h
  subst hid ht
  set inv : InviteRow := { PgTenantInviteRepository.rowOf _ with email := stored } with hinv
  have hinvitation : Invitation w.db w.now slug email role inv :=
    { tenant := ⟨row, hrow, rfl⟩
      permitted := hgrant
      address := ⟨address, Except.mapError_eq_ok.mp haddress, hstored⟩
      role := ⟨r, hr, rfl⟩
      expires := rfl
      pending := rfl }
  obtain ⟨roleName, hfind⟩ := @invite?_append w.db inv htoken hexists
  refine Prog.wp_bind.mpr (Prog.wp.mono (ensures_findByToken token) ?_)
  rintro _ _ ⟨rfl, rfl | ⟨⟨e, rfl⟩, hF⟩⟩
  · refine Prog.wp_ofOption.mpr ⟨fun created _ => ?_, fun hnone => ?_⟩
    · exact .inr ⟨inv, hctx, hinvitation, htoken, rfl, .inl ⟨created, rfl⟩⟩
    · cases (Option.map_eq_none_iff.mp hnone).symm.trans hfind
  · exact .inr ⟨inv, hctx, hinvitation, htoken, rfl, .inr hF⟩

/-! ## Acceptance -/

/-- **What an accepted invite implies**: it was acceptable and not expired, and its member was
added. -/
lemma ensures_acceptInvite {enabled : Bool} {backend : SessionBackend} (token : String) :
    ((platform enabled backend).acceptInvite ctx token).Ensures (Env F) (fun r w' =>
      ∀ summary, r = .ok summary → ∃ actor inv roleName role,
        ctx.actorId = some actor.inner ∧ Acceptable w.db actor token inv roleName role ∧
        w.now ≤ inv.expiresAt ∧ w'.db.memberships = w.db.memberships ++
          [newMembershipRow inv.tenantId actor role w.now inv.tenantRoleId] ∧
        summary.role = role) w := by
  refine ensures_acceptable (fun _ _ h => nomatch h) fun actor inv roleName role hctx hacc htime => ?_
  refine (PgMembershipRepository.writes_createWithRoleId _ _).mapErr.bind_ensures
    (fun _ _ h => nomatch h) ?_
  rintro created w₁ ⟨rfl, m, db, h, rfl⟩
  refine (PgTenantInviteRepository.writes_markAccepted _).mapErr.bind_ensures
    (fun _ _ h => nomatch h) ?_
  rintro _ w₂ ⟨n, db₂, -, hmark, rfl⟩
  refine Prog.wp_bind.mpr (Prog.ensures_iff.mpr fun r₁ w₃ hrun => ?_)
  obtain ⟨-, -, -, -, -, hadded⟩ := @insertMembership_ok w.now _ _ _ _ h
  obtain ⟨-, hmarked⟩ := markInviteAccepted_ok hmark
  obtain ⟨_, _, _, rfl⟩ := sessionsMoved_of_exec (all_notify enabled backend _) hrun
  cases r₁ with
  | error e => exact fun _ h => nomatch h
  | ok _ =>
    have hread : ∀ w', (PgTenantRepository.findById inv.tenantId).Reads (Env F) w' fun _ => True :=
      fun w' => (reads_select _).mapErr.bind fun _ _ => (Prog.reads_done _).mono fun _ _ => trivial
    refine (hread _).mapErr.bind_ensures (fun _ _ h => nomatch h) fun found _ => ?_
    refine (Prog.reads_ofOption _ _).bind_ensures (fun _ _ h => nomatch h) fun tenant _ => ?_
    refine Prog.wp_pure.mpr fun summary h => ?_
    obtain rfl := Except.ok.inj h
    refine ⟨actor, inv, roleName, role, hctx, hacc, htime, ?_, rfl⟩
    rw [hmarked, hadded]
    rfl

/-! ## Runs -/

/-- An earlier call stored this very invite for the role, under a new token; the call failed only
if the invite could not be read back. -/
def Invited (F : Req → Prop) (tr : List (World × TenantLabel)) (w : World) (inv : InviteRow)
    (role : TenantRole) : Prop :=
  ∃ w₀ w₁ ctx slug email r,
    (w₀, .call ctx (.createInvite slug email role) r, w₁) ∈ Run.steps tr w ∧
    ctx.actorId = some inv.invitedBy.inner ∧ Invitation w₀.db w₀.now slug email role inv ∧
    (∀ i ∈ w₀.db.invites, i.token ≠ inv.token) ∧ inv ∈ w₁.db.invites ∧
    (r = .ok () ∨ F (.query (.inviteByToken inv.token)))

/-- An earlier call stored the invite, and the invite still refers to a role of the name given
there. -/
def Pending (F : Req → Prop) (tr : List (World × TenantLabel)) (w : World) (inv : InviteRow) :
    Prop :=
  ∃ role, Invited F tr w inv role ∧
    RefersTo w.db.tenantRoles inv.tenantId inv.tenantRoleId role.asStr

/-- An invite stays created. -/
lemma Invited.snoc {tr : List (World × TenantLabel)} {l : TenantLabel} {inv : InviteRow}
    {role : TenantRole} (h : Invited F tr w inv role) : Invited F ((w, l) :: tr) w' inv role := by
  obtain ⟨w₀, w₁, ctx, slug, email, r, hmem, h⟩ := h
  exact ⟨w₀, w₁, ctx, slug, email, r, List.mem_cons_of_mem _ hmem, h⟩

/-- An invite stays pending as long as its role keeps its name. -/
lemma Pending.snoc {tr : List (World × TenantLabel)} {l : TenantLabel} {inv : InviteRow}
    (h : Pending F tr w inv)
    (hrole : ∀ name, RefersTo w.db.tenantRoles inv.tenantId inv.tenantRoleId name →
      RefersTo w'.db.tenantRoles inv.tenantId inv.tenantRoleId name) :
    Pending F ((w, l) :: tr) w' inv := by
  obtain ⟨role, hinvited, hrefers⟩ := h
  exact ⟨role, hinvited.snoc, hrole _ hrefers⟩

/-- The address of an invite is stored as it was parsed. -/
def InviteRow.Addressed (inv : InviteRow) : Prop :=
  ∃ raw address, Email.parse raw = .ok address ∧ varchar 255 address.text = .ok inv.email

/-- **What any other call does to invites**: an invite was there before, and if it is not accepted,
it is the same; the role it refers to keeps its name. -/
lemma TenantEffect.keeps_invite {now : Time} {actor : UserId} {db db' : Db} {call : TenantCall}
    {complete : Bool} {event : Option MembershipEvent}
    (h : TenantEffect now actor db call complete event db') (hw : db.WellFormed)
    (hcall : ∀ slug email role, call ≠ .createInvite slug email role) {inv : InviteRow}
    (hinv : inv ∈ db'.invites) :
    (∃ old ∈ db.invites, old.email = inv.email ∧ (inv.acceptedAt = none → old = inv)) ∧
      ∀ name, RefersTo db.tenantRoles inv.tenantId inv.tenantRoleId name →
        RefersTo db'.tenantRoles inv.tenantId inv.tenantRoleId name := by
  have hsame : ∀ old ∈ db.invites, old = inv →
      ∃ old ∈ db.invites, old.email = inv.email ∧ (inv.acceptedAt = none → old = inv) := by
    rintro old hold rfl
    exact ⟨old, hold, rfl, fun _ => rfl⟩
  cases h with
  | created hslug hnew h =>
    obtain ⟨_, rfl, -, -, -, -, -, -, seeds, -, -, rfl⟩ :=
      createTenantTx_ok hw.roles.roleTenant hw.roles.roleIds h
    exact ⟨hsame inv hinv rfl, fun _ => RefersTo.append⟩
  | renamed hrow htenant hgrant h =>
    obtain ⟨-, rfl⟩ | ⟨-, _, -, -, rfl⟩ := updateTenant_ok h
    · exact ⟨hsame inv hinv rfl, fun _ h => h⟩
    · exact ⟨hsame inv hinv rfl, fun _ h => h⟩
  | deleted hrow hgrant h =>
    obtain ⟨-, rfl, -⟩ | ⟨-, rfl⟩ := deleteTenant_ok h
    · exact ⟨hsame inv hinv rfl, fun _ h => h⟩
    · obtain ⟨hinv, hne⟩ := List.mem_filter.mp hinv
      exact ⟨hsame inv hinv rfl, fun _ => RefersTo.filter fun r _ _ ht => by rw [ht]; exact hne⟩
  | memberAdded hrow hgrant hu hr h =>
    obtain ⟨-, -, -, -, -, rfl⟩ := insertMembership_ok h
    exact ⟨hsame inv hinv rfl, fun _ h => h⟩
  | memberUpdated hrow hgrant hu hr h hn =>
    obtain ⟨-, -, rfl⟩ := updateMembershipRole_ok h
    exact ⟨hsame inv hinv rfl, fun _ h => h⟩
  | memberRemoved hrow hgrant hu h hn =>
    obtain ⟨-, rfl⟩ := deleteMembership_ok h
    exact ⟨hsame inv hinv rfl, fun _ h => h⟩
  | inviteCreated hrow hgrant hr htenant hroleId hby hnew h => exact absurd rfl (hcall _ _ _)
  | inviteInserted hacc h =>
    obtain ⟨-, -, -, -, -, rfl⟩ := insertMembership_ok h
    exact ⟨hsame inv hinv rfl, fun _ h => h⟩
  | inviteAccepted hacc h hmark =>
    obtain ⟨-, -, -, -, -, rfl⟩ := insertMembership_ok h
    obtain ⟨-, rfl⟩ := markInviteAccepted_ok hmark
    obtain ⟨old, hold, rfl⟩ := List.mem_map.mp hinv
    refine ⟨⟨old, hold, ?_, fun hpending => ?_⟩, fun _ h => h⟩
    · split <;> rfl
    · -- the invite that was accepted is not pending any more
      split at hpending
      · cases hpending
      · rename_i hother
        rw [if_neg hother]
  | roleCreated hrow hgrant htenant hcustom hperms h =>
    obtain ⟨_, -, -, -, rfl⟩ := createRoleTx_ok h
    exact ⟨hsame inv hinv rfl, fun _ => RefersTo.append⟩
  | roleUpdated hrow hgrant h =>
    obtain ⟨-, rfl⟩ := updateRolePermissionsTx_ok h
    refine ⟨hsame inv hinv rfl, fun _ => RefersTo.map fun r => ?_⟩
    unfold TenantRoleRow.touched
    split <;> exact ⟨rfl, rfl, rfl⟩
  | roleDeleted hrow hgrant h hn =>
    obtain ⟨-, rfl⟩ | ⟨-, -, -, hi, rfl⟩ := deleteRole_ok h
    · exact ⟨hsame inv hinv rfl, fun _ h => h⟩
    · refine ⟨hsame inv hinv rfl, fun _ => RefersTo.filter fun r _ hr _ => ?_⟩
      exact decide_eq_true fun hgone => hi inv hinv (hr.symm.trans hgone.2)

/-- **Where invites come from**, in every state of a run.

**Proof sketch.** Induction on the run.  A call that creates invites stores one that refers to the
role it named; any other call leaves invites that are not accepted as they are, and the names of
the roles invites refer to. -/
theorem pending_of_run {enabled : Bool} {backend : SessionBackend}
    {tr : List (World × TenantLabel)}
    (h : Run (·.db.NoTenants) (TenantStep (platform enabled backend) F) tr w) :
    ∀ inv ∈ w.db.invites, inv.Addressed ∧ (inv.acceptedAt = none → Pending F tr w inv) := by
  induction h with
  | start h0 => rw [h0.invites]; exact nofun
  | @snoc tr w w' l hrun hstep ih =>
    have hold : ∀ inv ∈ w.db.invites, w'.db.tenantRoles = w.db.tenantRoles →
        inv.Addressed ∧ (inv.acceptedAt = none → Pending F ((w, l) :: tr) w' inv) := by
      intro inv hinv hroles
      obtain ⟨haddressed, hpending⟩ := ih inv hinv
      exact ⟨haddressed, fun hnone => (hpending hnone).snoc fun _ hrefers => hroles ▸ hrefers⟩
    intro inv hinv
    cases hstep with
    | other hs =>
      obtain ⟨_, _, _, _, _, hdb⟩ := hs
      rw [hdb] at hinv
      exact hold inv hinv (by rw [hdb])
    | @call ctx call r _ _ hexec =>
      by_cases hcreate : ∃ slug email role, call = .createInvite slug email role
      · obtain ⟨slug, email, role, rfl⟩ := hcreate
        obtain ⟨r₀, hcreate, rfl⟩ := Prog.exec_map.mp hexec
        rcases (ensures_createInvite slug email role).of_exec hcreate with
          hdb | ⟨stored, hctx, hinvitation, hnew, hdb, hr⟩
        · rw [hdb] at hinv
          exact hold inv hinv (by rw [hdb])
        · rw [hdb] at hinv
          rcases List.mem_append.mp hinv with hinv | hinv
          · exact hold inv hinv (by rw [hdb])
          · obtain rfl := List.mem_singleton.mp hinv
            refine ⟨⟨email, hinvitation.address⟩, fun _ => ⟨role, ⟨w, w', ctx, slug, email, _,
              List.mem_cons_self, hctx, hinvitation, hnew, ?_, ?_⟩, ?_⟩⟩
            · rw [hdb]
              exact List.mem_append_right _ List.mem_cons_self
            · refine hr.imp_left ?_
              rintro ⟨created, rfl⟩
              rfl
            · obtain ⟨row, hrow, hid⟩ := hinvitation.role
              rw [hdb, ← hid]
              exact refersTo_roleNamed? hrow
      · have hcall : ∀ slug email role, call ≠ .createInvite slug email role :=
          fun slug email role heq => hcreate ⟨slug, email, role, heq⟩
        obtain ⟨hs, -⟩ | ⟨actor, _, _, db, hctx, heff, hs, -⟩ := TenantCall.effect_of_exec hexec
        · obtain ⟨_, _, _, _, _, hdb⟩ := hs
          rw [hdb] at hinv
          exact hold inv hinv (by rw [hdb])
        · obtain ⟨_, _, _, _, _, hdb⟩ := hs
          rw [hdb] at hinv
          obtain ⟨⟨old, hmem, hemail, heq⟩, hkept⟩ :=
            heff.keeps_invite (wellFormed_of_run hrun) hcall hinv
          obtain ⟨haddressed, hpending⟩ := ih old hmem
          unfold InviteRow.Addressed at haddressed
          rw [hemail] at haddressed
          refine ⟨haddressed, fun hnone => ?_⟩
          obtain rfl := heq hnone
          refine (hpending hnone).snoc fun name hrefers => ?_
          rw [hdb]
          exact hkept name hrefers

/-- **An invite that is acceptable** was stored by an earlier call, for the role it gives: the role
it refers to still has the name given there, and the ids of roles are unique. -/
theorem invited_of_acceptable {enabled : Bool} {backend : SessionBackend}
    {tr : List (World × TenantLabel)}
    (h : Run (·.db.NoTenants) (TenantStep (platform enabled backend) F) tr w) {actor : UserId}
    {token roleName : String} {inv : InviteRow} {role : TenantRole}
    (hacc : Acceptable w.db actor token inv roleName role) : Invited F tr w inv role := by
  obtain ⟨hmem, -⟩ := Db.of_invite? hacc.found
  obtain ⟨named, hinvited, referred, hreferred, hid', -, hname'⟩ :=
    (pending_of_run h inv hmem).2 hacc.pending
  obtain ⟨found, hfound, hid, hname⟩ := Db.role_of_invite? hacc.found
  obtain rfl := Keyed.eq_of_key_eq _ (wellFormed_of_run h).roles.roleIds hfound hreferred
    (hid.trans hid'.symm)
  have hrole : TenantRole.parse named.asStr = .ok role := by
    rw [← hname', hname]
    exact hacc.role
  rw [TenantRole.parse_asStr] at hrole
  obtain rfl := Except.ok.inj hrole
  exact hinvited

/-- **Invites are sound.**  In every run, a token that is accepted is one of an invite that an
earlier call stored for the same tenant, made by an actor who could manage members then; the call
returned, unless the query that reads the invite back may fail.  The address of that call, parsed,
is the stored address of the actor, the invite has not expired and is not accepted, and the member
gets the role named in that call.  Parsing is a fixed point on parsed addresses, lower-casing agrees
with it on stored ones, and so addresses compare equal exactly if they are.

**Proof sketch.** The invite that is found is acceptable, so an earlier call stored it for the role
it gives (`invited_of_acceptable`).  A parsed address is stored as it is, and lower-casing leaves it
alone. -/
theorem invite_soundness (laws : LowercaseLaws) :
    (∀ enabled backend F tr w, Run (·.db.NoTenants) (TenantStep (platform enabled backend) F) tr w →
      (∀ ctx token summary w',
        ((platform enabled backend).acceptInvite ctx token).Exec (Env F) w (.ok summary) w' →
        ∃ (actor : UserId) (row : UserRow) (user : User) (inv : InviteRow) (w₀ w₁ : World)
          (ctx₀ : ExecutionContext) (slug email : String) (role : TenantRole)
          (r : Except TenantError Unit),
          ctx.actorId = some actor.inner ∧ w.db.users.find? (·.id = actor) = some row ∧
          row.intoUser = .ok user ∧
          (w₀, .call ctx₀ (.createInvite slug email role) r, w₁) ∈ Run.steps tr w ∧
          (r = .ok () ∨ F (.query (.inviteByToken token))) ∧
          ctx₀.actorId = some inv.invitedBy.inner ∧
          Invitation w₀.db w₀.now slug email role inv ∧ inv.token = token ∧
          (∀ i ∈ w₀.db.invites, i.token ≠ token) ∧ inv ∈ w₁.db.invites ∧ inv ∈ w.db.invites ∧
          Email.parse email = .ok user.email ∧ w.now ≤ inv.expiresAt ∧
          w'.db.memberships = w.db.memberships ++
            [newMembershipRow inv.tenantId actor role w.now inv.tenantRoleId] ∧
          summary.role = role) ∧
      ∀ inv ∈ w.db.invites, Email.parse inv.email = .ok (Email.new inv.email)) ∧
    (∀ raw email, Email.parse raw = .ok email →
      Email.parse email.text = .ok email ∧ Email.new email.text = email) ∧
    ∀ raw raw' email email', Email.parse raw = .ok email → Email.parse raw' = .ok email' →
      (Email.parse email.text = .ok (Email.new email'.text) ↔ email = email') := by
  refine ⟨fun enabled backend F tr w hrun => ⟨?_, ?_⟩, ?_, ?_⟩
  · intro ctx token summary w' hexec
    obtain ⟨actor, inv, roleName, role, hctx, hacc, htime, hmembers, hsummary⟩ :=
      (ensures_acceptInvite token).of_exec hexec summary rfl
    obtain ⟨hmem, htoken⟩ := Db.of_invite? hacc.found
    obtain ⟨w₀, w₁, ctx₀, slug, email, r, hstep, hctx₀, hinvitation, hnew, hstored, hr⟩ :=
      invited_of_acceptable hrun hacc
    obtain ⟨row, user, hrow, huser, hemail⟩ := hacc.addressed
    subst htoken
    obtain ⟨address, haddress, hcolumn⟩ := hinvitation.address
    have huserEmail : user.email = address := by
      rw [hemail, varchar_text laws haddress hcolumn, Email.new_text laws haddress]
    exact ⟨actor, row, user, inv, w₀, w₁, ctx₀, slug, email, role, r, hctx, hrow, huser, hstep, hr,
      hctx₀, hinvitation, rfl, hnew, hstored, hmem, huserEmail ▸ haddress, htime, hmembers, hsummary⟩
  · intro inv hinv
    obtain ⟨raw, address, haddress, hcolumn⟩ := (pending_of_run hrun inv hinv).1
    rw [varchar_text laws haddress hcolumn, Email.new_text laws haddress]
    exact Email.parse_text laws haddress
  · exact fun raw email h => ⟨Email.parse_text laws h, Email.new_text laws h⟩
  · intro raw raw' email email' h h'
    rw [Email.parse_text laws h, Email.new_text laws h', Except.ok.injEq]

namespace Scenario

omit [Unicode]

/-- A tenant whose owner has invited a guest, with white space and capitals in the address. -/
def invitation : List (Nat × TenantCall) :=
  [(901, .createInvite "acme" " Eve@X.org " .guest), (901, .createTenant "acme" "Acme")]

/-- Queries by invite token may fail. -/
def inviteReads : Req → Prop
  | .query (.inviteByToken _) => True
  | _ => False

/-- Requests are answered as usual, but queries by invite token fail. -/
def answerUnread (q : Req) (w : World) : Ans q × World :=
  match q with
  | .query (.inviteByToken _) => (.error (.other "timeout"), w)
  | q => World.answer q w

/-- The environment allows such answers. -/
lemma env_answerUnread (q : Req) (w : World) :
    Env inviteReads q w (answerUnread q w).1 (answerUnread q w).2 := by
  cases q with
  | query q =>
    cases q with
    | inviteByToken token => exact ⟨rfl, .inr ⟨trivial, _, rfl⟩⟩
    | _ => exact env_answer inviteReads _ w
  | _ => exact env_answer inviteReads _ w

/-- The creation of an invite that cannot be read back, and the world after it. -/
def lostInvite : Except TenantError Unit × World :=
  letI := Unicode.ascii
  (TenantCall.run (platform true .database) (Scenario.ctx 901)
    (.createInvite "acme" "eve@x.org" .guest)).eval answerUnread
      (played [(901, .createTenant "acme" "Acme")])

/-- What happens until then. -/
def lostHistory : List (World × TenantLabel) :=
  (played [(901, .createTenant "acme" "Acme")],
    .call (Scenario.ctx 901) (.createInvite "acme" "eve@x.org" .guest) lostInvite.1) ::
    playedHistory [(901, .createTenant "acme" "Acme")]

end Scenario

omit [Unicode]

/-- A guest accepts an invite to the address in other letters; it was created before. -/
theorem invite_soundness_guest :
    ∃ w₀ w₁ ctx₀ slug email r inv,
      (w₀, TenantLabel.call ctx₀ (.createInvite slug email .guest) r, w₁) ∈
        Run.steps (Scenario.playedHistory Scenario.invitation) (Scenario.played Scenario.invitation) ∧
      @Invitation Unicode.ascii w₀.db w₀.now slug email .guest inv := by
  have hrole : ((@TenantService.acceptInvite Unicode.ascii (platform true .database)
      (Scenario.ctx 903) "").eval World.answer
        (Scenario.played Scenario.invitation)).1.toOption.any (·.role = .guest) = true := by
    decide +kernel
  obtain ⟨summary, hsummary, hguest⟩ := (Option.any_eq_true _ _).mp hrole
  obtain ⟨hruns, -, -⟩ := @invite_soundness Unicode.ascii lowercaseLaws_ascii
  obtain ⟨_, _, _, inv, w₀, w₁, ctx₀, slug, email, role, r, -, -, -, hstep, -, -, hinvitation, -, -, -,
    -, -, -, -, hsame⟩ := (hruns true .database noFault _ _
      (Scenario.run_played Scenario.invitation)).1 (Scenario.ctx 903) "" summary _
        (exec_answer (toOption_eq_some.mp hsummary))
  obtain rfl : TenantRole.guest = role := (of_decide_eq_true hguest).symm.trans hsame
  exact ⟨w₀, w₁, ctx₀, slug, email, r, inv, hstep, hinvitation⟩

/-- **An invite whose creation failed is accepted.**  The invite is stored, but cannot be read back,
so its creation fails; no creation of an invite returned in the run, and the invite is accepted. -/
theorem lost_invite_accepted :
    Run (·.db.NoTenants) (@TenantStep Unicode.ascii (platform true .database) Scenario.inviteReads)
      Scenario.lostHistory Scenario.lostInvite.2 ∧
    (∀ e ∈ Scenario.lostHistory, ∀ ctx slug email role,
      e.2 ≠ .call ctx (.createInvite slug email role) (.ok ())) ∧
    ∃ summary w', (@TenantService.acceptInvite Unicode.ascii (platform true .database)
      (Scenario.ctx 903) "").Exec (Env Scenario.inviteReads) Scenario.lostInvite.2
        (.ok summary) w' := by
  obtain ⟨hfailed, hok⟩ : Scenario.lostInvite.1.isOk = false ∧
      ((@TenantService.acceptInvite Unicode.ascii (platform true .database)
        (Scenario.ctx 903) "").eval World.answer Scenario.lostInvite.2).1.isOk = true := by
    decide +kernel
  refine ⟨?_, ?_, ?_⟩
  · have hcreated := @Scenario.run_history Unicode.ascii (platform true .database)
      Scenario.inviteReads [(901, .createTenant "acme" "Acme")]
    exact hcreated.snoc (@TenantStep.call Unicode.ascii _ _ _ _ _ _ _
      (Prog.exec_eval Scenario.env_answerUnread))
  · intro e he ctx slug email role heq
    rcases List.mem_cons.mp he with rfl | he
    · obtain ⟨-, -, hr⟩ := TenantLabel.call.inj heq
      rw [hr] at hfailed
      cases hfailed
    · obtain rfl := List.mem_singleton.mp he
      obtain ⟨-, hcall, -⟩ := TenantLabel.call.inj heq
      cases hcall
  · obtain ⟨summary, hsummary⟩ := exec_of_isOk hok Scenario.inviteReads
    exact ⟨summary, _, hsummary⟩

end Klynt
