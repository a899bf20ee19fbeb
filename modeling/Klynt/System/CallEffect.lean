import Klynt.Persistence.Inversion
import Klynt.System.TenantCall

set_option relaxedAutoImplicit false
set_option autoImplicit false

/-!
# Calls have their effects

The proof that every run of a call, whatever fails in it, has a `CallOutcome`.  The helpers
read and change nothing, so a call is followed up to its write, which either has its effect
or fails without.

## Main results

* `ensures_guarded` — the common prefix of the guarded use cases.
* `TenantCall.ensures`, `TenantCall.outcome` — every run of a call has an outcome.
-/

namespace Klynt

variable [Unicode] {F : Req → Prop} {w : World} {ctx : ExecutionContext}

/-! ## Helpers that read -/

/-- What a tenant row is mapped to. -/
theorem mapTenantRow_eq_ok {row : TenantRow} {tenant : Tenant} (h : mapTenantRow row = .ok tenant) :
    ∃ status slug, TenantStatus.fromStr row.status = .ok status ∧
      TenantSlug.parse row.slug = .ok slug ∧
      tenant = { id := row.id, slug, name := row.name, ownerId := row.ownerId,
                 maxMembers := row.maxMembers, maxOwners := row.maxOwners,
                 settings := row.settings, status, createdAt := row.createdAt,
                 updatedAt := row.updatedAt } := by
  unfold mapTenantRow at h
  cases hst : TenantStatus.fromStr row.status with
  | error e => simp [hst, Except.mapError, bind, Except.bind] at h
  | ok status =>
    cases hsl : TenantSlug.parse row.slug with
    | error e => simp [hst, hsl, Except.mapError, bind, Except.bind] at h
    | ok slug =>
      refine ⟨status, slug, rfl, rfl, ?_⟩
      simpa [hst, hsl, Except.mapError, bind, Except.bind, pure, Except.pure] using h.symm

/-- A mapped tenant has the id of its row. -/
theorem mapTenantRow_id {row : TenantRow} {tenant : Tenant} (h : mapTenantRow row = .ok tenant) :
    tenant.id = row.id := by
  obtain ⟨_, _, -, -, rfl⟩ := mapTenantRow_eq_ok h; rfl

/-- A mapped tenant has the owner of its row. -/
theorem mapTenantRow_ownerId {row : TenantRow} {tenant : Tenant}
    (h : mapTenantRow row = .ok tenant) : tenant.ownerId = row.ownerId := by
  obtain ⟨_, _, -, -, rfl⟩ := mapTenantRow_eq_ok h; rfl

omit [Unicode] in
/-- The actor of a call. -/
theorem reads_requireActor :
    (requireActor ctx).Reads (Env F) w (fun actor => ctx.actorId = some actor.inner) :=
  (Prog.reads_ofOption _ _).mono fun actor h => by
    obtain ⟨u, hu, rfl⟩ := Option.map_eq_some_iff.mp h; exact hu

/-- A fetched tenant is mapped from a row. -/
theorem reads_fetchTenant {slug : String} :
    (fetchTenant slug).Reads (Env F) w
      (fun tenant => ∃ row, w.db.tenantNamed? slug = some row ∧ mapTenantRow row = .ok tenant) := by
  refine (Prog.reads_done _).bind fun s hs => ?_
  have hfind : (PgTenantRepository.findBySlug s).Reads (Env F) w
      (fun o => mapOption mapTenantRow (w.db.tenants.find? (·.slug = s.text)) = .ok o) :=
    (reads_select _).mapErr.bind fun row hrow => by subst hrow; exact Prog.reads_done _
  refine hfind.mapErr.bind fun found hfound => ?_
  refine (Prog.reads_ofOption _ _).mono fun tenant ht => ?_
  subst ht
  obtain ⟨row, hrow, hmap⟩ := mapOption_eq_some.mp hfound
  refine ⟨row, ?_, hmap⟩
  rw [Db.tenantNamed?, Except.mapError_eq_ok.mp hs]
  exact hrow

/-- A required permission is granted. -/
theorem reads_requirePermission {t : TenantId} {actor : UserId} {name : String}
    {e : TenantError} :
    (requirePermission t actor name e).Reads (Env F) w (fun _ => w.db.Grants t actor name) :=
  AuthorizationService.reads_requirePermission.mapErr

/-- A found invite is mapped from a row. -/
theorem reads_findByToken {token : String} :
    (PgTenantInviteRepository.findByToken token).Reads (Env F) w
      (· = (w.db.invite? token).map mapInviteRow) :=
  (reads_select _).mapErr.bind fun row hrow => by subst hrow; exact Prog.reads_pure _

/-- A user found by id is mapped from a row. -/
theorem reads_findById {u : UserId} :
    (PgUserRepository.findById u).Reads (Env F) w fun found =>
      (mapOption UserRow.intoUser (w.db.users.find? (·.id = u))).mapError
        RepositoryError.ofDomain = .ok found :=
  (reads_select _).mapErr.bind fun row hrow => by subst hrow; exact Prog.reads_done _

omit [Unicode] in
/-- A role found by id. -/
theorem reads_findRoleById {t : TenantId} {id : RoleId} :
    (PgRoleRepository.findRoleById t id).Reads (Env F) w
      (· = (w.db.roleOf? t id).map w.db.roleAggregate) :=
  (reads_select _).mapErr

/-- The target user is the one the email names. -/
theorem reads_findTargetUser {email : String} :
    (findTargetUser email).Reads (Env F) w
      (fun user => w.db.userNamed? email = some user.id) := by
  refine (Prog.reads_done _).bind fun address haddress => ?_
  have hfind : (PgUserRepository.findByEmail address).Reads (Env F) w
      (fun o => (mapOption UserRow.intoUser (w.db.users.find? fun u =>
        u.email = address.text ∧ u.deletedAt.isNone)).mapError RepositoryError.ofDomain = .ok o) :=
    (reads_select _).mapErr.bind fun row hrow => by subst hrow; exact Prog.reads_done _
  refine hfind.mapErr.bind fun found hfound => ?_
  refine (Prog.reads_ofOption _ _).mono fun user hu => ?_
  subst hu
  obtain ⟨row, hrow, huser⟩ := mapOption_eq_some.mp (Except.mapError_eq_ok.mp hfound)
  rw [Db.userNamed?, Except.mapError_eq_ok.mp haddress, (UserRow.intoUser_ok huser).1]
  exact congrArg (Option.map UserRow.id) hrow

/-- **The guarded prefix.** What follows runs as the actor, on a tenant whose row was found,
with the permission granted. -/
theorem ensures_guarded {α : Type} {slug name : String} {e : TenantError}
    {Q : Except TenantError α → World → Prop} {f : UserId → Tenant → Action TenantError α}
    (herr : ∀ e, Q (.error e) w)
    (hf : ∀ actor row tenant, ctx.actorId = some actor.inner → w.db.tenantNamed? slug = some row →
      mapTenantRow row = .ok tenant → w.db.Grants row.id actor name →
      (f actor tenant).Ensures (Env F) Q w) :
    (do
      let actor ← requireActor ctx
      let tenant ← fetchTenant slug
      requirePermission tenant.id actor name e
      f actor tenant : Action TenantError α).Ensures (Env F) Q w := by
  refine reads_requireActor.bind_ensures herr fun actor hactor => ?_
  refine reads_fetchTenant.bind_ensures herr fun tenant ⟨row, hrow, hmap⟩ => ?_
  refine reads_requirePermission.bind_ensures herr fun _ hgrant => ?_
  rw [mapTenantRow_id hmap] at hgrant
  exact hf actor row tenant hactor hrow hmap hgrant

/-- **The prefix of an acceptance.** What follows runs as the actor, on an acceptable invite that
has not expired. -/
theorem ensures_acceptable {α : Type} {token : String} {Q : Except TenantError α → World → Prop}
    {f : UserId → TenantInvite → TenantRole → Time → Action TenantError α}
    (herr : ∀ e, Q (.error e) w)
    (hf : ∀ actor inv roleName role, ctx.actorId = some actor.inner →
      Acceptable w.db actor token inv roleName role → w.now ≤ inv.expiresAt →
      (f actor (mapInviteRow (inv, roleName)) role w.now).Ensures (Env F) Q w) :
    (do
      let actorId ← requireActor ctx
      let found ← (PgTenantInviteRepository.findByToken token).mapErr fun e => .internal e.text
      let invite ← .ofOption (.domain (.notFound "invite")) found
      let t ← now
      .rejectIf (invite.acceptedAt.isSome ∨ invite.expiresAt < t)
        (.domain (.validation "invite expired or already accepted"))
      let found ← (PgUserRepository.findById actorId).mapErr fun e => .internal e.text
      let actor ← .ofOption .authenticationRequired found
      .rejectIf (actor.email ≠ invite.email) (.domain (.notPermitted "invite email mismatch"))
      let role ← .done ((TenantRole.parse invite.roleName).mapError .domain)
      let joinedAt ← now
      f actorId invite role joinedAt : Action TenantError α).Ensures (Env F) Q w := by
  refine reads_requireActor.bind_ensures herr fun actor hctx => ?_
  refine reads_findByToken.mapErr.bind_ensures herr fun found hfound => ?_
  refine (Prog.reads_ofOption _ _).bind_ensures herr fun invite hinvite => ?_
  obtain ⟨⟨inv, roleName⟩, hinv, rfl⟩ := Option.map_eq_some_iff.mp (hfound.symm.trans hinvite)
  refine reads_now.bind_ensures herr fun t ht => ?_
  refine (Prog.reads_rejectIf _ _).bind_ensures herr fun _ hpending => ?_
  refine reads_findById.mapErr.bind_ensures herr fun found huser => ?_
  refine (Prog.reads_ofOption _ _).bind_ensures herr fun user hsome => ?_
  subst hsome
  refine (Prog.reads_rejectIf _ _).bind_ensures herr fun _ hemail => ?_
  refine (Prog.reads_done _).bind_ensures herr fun role hrole => ?_
  refine reads_now.bind_ensures herr fun joinedAt hjoined => ?_
  subst ht hjoined
  obtain ⟨row, hrow, huser⟩ := mapOption_eq_some.mp (Except.mapError_eq_ok.mp huser)
  obtain ⟨hunused, htime⟩ := not_or.mp hpending
  exact hf actor inv roleName role hctx
    { found := hinv
      pending := Option.not_isSome_iff_eq_none.mp hunused
      addressed := ⟨row, user, hrow, huser, not_not.mp hemail⟩
      role := Except.mapError_eq_ok.mp hrole } (not_lt.mp htime)

/-! ## Repository operations that write -/

/-- A created tenant; UUIDs are drawn in any case. -/
theorem PgTenantRepository.ensures_create (tenant : Tenant) :
    (create tenant).Ensures (Env F) (fun r w' => ∃ minted,
      (∃ e, r = .error e ∧ w' = { w with minted }) ∨
      ∃ ids row db, createTenantTx w.now tenant ids w.db = .ok (row, db) ∧
        r = mapTenantRow row ∧ w' = { w with db, minted }) w := by
  refine Prog.wp_bind.mpr (ensures_newUuid fun owner => ?_)
  refine Prog.wp_bind.mpr (ensures_newUuid fun admin => ?_)
  refine Prog.wp_bind.mpr (ensures_newUuid fun member => ?_)
  refine Prog.wp_bind.mpr (ensures_newUuid fun guest => ?_)
  refine (writes_transact _).bind_ensures (fun e => ⟨_, .inl ⟨e, rfl, rfl⟩⟩) ?_
  rintro row w' ⟨db, h, rfl⟩
  exact Prog.wp_done.mpr ⟨_, .inr ⟨_, row, db, h, rfl, rfl⟩⟩

omit [Unicode] in
/-- An updated tenant. -/
theorem PgTenantRepository.writes_update (tenant : Tenant) :
    (update tenant).Writes (Env F) w fun _ w' => ∃ n db,
      updateTenant (.ofTenant tenant) w.now w.db = .ok (n, db) ∧ w' = { w with db } := by
  refine (writes_execute _).mapErr.bind_ensures (fun _ => rfl) ?_
  rintro (n : Nat) w' ⟨db, h, rfl⟩
  refine Prog.wp_bind.mpr (Prog.wp_rejectIf.mpr
    ⟨fun _ => Prog.wp_pure.mpr ⟨n, db, h, rfl⟩, ?_⟩)
  rintro rfl
  obtain ⟨-, rfl⟩ | ⟨hn, -⟩ := updateTenant_ok h
  · rfl
  · cases hn

omit [Unicode] in
/-- A deleted tenant. -/
theorem PgTenantRepository.writes_delete (id : TenantId) :
    (delete id).Writes (Env F) w fun _ w' => ∃ n db,
      deleteTenant id w.now w.db = .ok (n, db) ∧ w' = { w with db } := by
  refine (writes_execute _).mapErr.bind_ensures (fun _ => rfl) ?_
  rintro (n : Nat) w' ⟨db, (h : deleteTenant id w.now w.db = _), rfl⟩
  refine Prog.wp_rejectIf.mpr ⟨fun _ => ⟨n, db, h, rfl⟩, ?_⟩
  rintro rfl
  obtain ⟨-, rfl, -⟩ | ⟨hn, -⟩ := deleteTenant_ok h
  · rfl
  · cases hn

/-- A created membership with a role of a given id. -/
theorem PgMembershipRepository.writes_createWithRoleId (m : Membership) (roleId : RoleId) :
    (createWithRoleId m roleId).Writes (Env F) w fun c w' => c = m ∧ ∃ row db,
      insertMembership (rowOf m roleId) w.now w.db = .ok (row, db) ∧ w' = { w with db } := by
  refine (writes_execute _).mapErr.bind_ensures (fun _ => rfl) ?_
  rintro (row : MembershipRow) w' ⟨db, (h : insertMembership _ w.now w.db = _), rfl⟩
  obtain ⟨-, -, -, -, rfl, -⟩ := insertMembership_ok h
  have hmap : mapMembershipRow (rowOf m roleId) = .ok m :=
    mapMembershipRow_eq_ok.mpr ⟨m.role, TenantRole.parse_asStr _, rfl⟩
  rw [hmap]
  exact Prog.wp_done.mpr ⟨rfl, _, db, h, rfl⟩

omit [Unicode] in
/-- The id of a role found by name. -/
theorem PgMembershipRepository.reads_findRoleIdByName (t : TenantId) (name : String) :
    (findRoleIdByName t name).Reads (Env F) w fun id =>
      ∃ r, w.db.roleNamed? t name = some r ∧ r.id = id := by
  refine (reads_select _).mapErr.bind fun found hfound => ?_
  subst hfound
  exact (Prog.reads_ofOption _ _).mono fun id h => Option.map_eq_some_iff.mp h

/-- A created membership. -/
theorem PgMembershipRepository.writes_create (m : Membership) :
    (create m).Writes (Env F) w fun c w' => c = m ∧ ∃ r row db,
      w.db.roleNamed? m.tenantId m.role.asStr = some r ∧
      insertMembership (rowOf m r.id) w.now w.db = .ok (row, db) ∧ w' = { w with db } := by
  refine (reads_findRoleIdByName _ _).mapErr.bind_writes fun roleId ⟨r, hr, hid⟩ => ?_
  subst hid
  refine (writes_createWithRoleId m r.id).mono ?_
  rintro c w' ⟨rfl, row, db, h, rfl⟩
  exact ⟨rfl, r, row, db, hr, h, rfl⟩

/-- A membership with another role. -/
theorem PgMembershipRepository.writes_updateRole (t : TenantId) (u : UserId) (role : TenantRole) :
    (updateRole t u role).Writes (Env F) w fun _ w' => ∃ r n db,
      w.db.roleNamed? t role.asStr = some r ∧ n ≠ 0 ∧
      updateMembershipRole role.asStr t u r.id w.now w.db = .ok (n, db) ∧ w' = { w with db } := by
  refine reads_find.bind_writes fun existing _ => ?_
  refine (Prog.reads_rejectIf _ _).bind_writes fun _ _ => ?_
  refine (reads_findRoleIdByName _ _).bind_writes fun roleId ⟨r, hr, hid⟩ => ?_
  subst hid
  refine (writes_execute _).mapErr.bind_ensures (fun _ => rfl) ?_
  rintro (n : Nat) w' ⟨db, (h : updateMembershipRole _ _ _ _ w.now w.db = _), rfl⟩
  refine Prog.wp_rejectIf.mpr ⟨fun hn => ⟨r, n, db, hr, hn, h, rfl⟩, ?_⟩
  rintro rfl
  obtain rfl := updateMembershipRole_zero h
  rfl

omit [Unicode] in
/-- A deleted membership. -/
theorem PgMembershipRepository.writes_delete (t : TenantId) (u : UserId) :
    (delete t u).Writes (Env F) w fun _ w' => ∃ n db, n ≠ 0 ∧
      deleteMembership t u w.now w.db = .ok (n, db) ∧ w' = { w with db } := by
  refine (writes_execute _).mapErr.bind_ensures (fun _ => rfl) ?_
  rintro (n : Nat) w' ⟨db, (h : deleteMembership t u w.now w.db = _), rfl⟩
  refine Prog.wp_rejectIf.mpr ⟨fun hn => ⟨n, db, hn, h, rfl⟩, ?_⟩
  rintro rfl
  obtain rfl := deleteMembership_zero h
  rfl

omit [Unicode] in
/-- An invite marked as accepted. -/
theorem PgTenantInviteRepository.writes_markAccepted (id : Uuid) :
    (markAccepted id).Writes (Env F) w fun _ w' => ∃ n db, n ≠ 0 ∧
      markInviteAccepted id w.now w.db = .ok (n, db) ∧ w' = { w with db } := by
  refine (writes_execute _).mapErr.bind_ensures (fun _ => rfl) ?_
  rintro (n : Nat) w' ⟨db, (h : markInviteAccepted id w.now w.db = _), rfl⟩
  refine Prog.wp_rejectIf.mpr ⟨fun hn => ⟨n, db, hn, h, rfl⟩, ?_⟩
  rintro rfl
  obtain rfl := markInviteAccepted_zero h
  rfl

omit [Unicode] in
/-- A deleted role. -/
theorem PgRoleRepository.writes_deleteRole (t : TenantId) (id : RoleId) :
    (deleteRole t id).Writes (Env F) w fun _ w' => ∃ n db,
      Klynt.deleteRole t id w.now w.db = .ok (n, db) ∧ n ≠ 0 ∧ w' = { w with db } := by
  refine (writes_execute _).mapErr.bind_ensures (fun _ => rfl) ?_
  rintro (n : Nat) w' ⟨db, (h : Klynt.deleteRole t id w.now w.db = _), rfl⟩
  by_cases hn : n > 0
  · rw [if_pos hn]
    exact Prog.wp_pure.mpr ⟨n, db, h, Nat.pos_iff_ne_zero.mp hn, rfl⟩
  · rw [if_neg hn]
    obtain ⟨rfl, rfl⟩ | ⟨rfl, -⟩ := deleteRole_ok h
    · refine (reads_select _).mapErr.bind_ensures (fun _ => rfl) fun isSystem _ => ?_
      split <;> exact Prog.wp_fail.mpr rfl
    · exact absurd Nat.one_pos hn

/-! ## Calls -/

section Calls

variable {service : TenantService} {call : TenantCall} {w₁ : World}

/-- The outcome of a call whose use case returns a value. -/
abbrev OutcomeOf (service : TenantService) (F : Req → Prop) (ctx : ExecutionContext)
    (call : TenantCall) (w : World) {α : Type} (r : Except TenantError α) (w' : World) : Prop :=
  CallOutcome service F ctx call w (r.map fun _ => ()) w'

/-- The outcome of a call whose use case returns nothing. -/
theorem OutcomeOf.toUnit {r : Except TenantError Unit} {w' : World}
    (h : OutcomeOf service F ctx call w r w') : CallOutcome service F ctx call w r w' := by
  cases r with
  | ok _ => exact h
  | error e => exact h

/-- What a use case does after its last write: it reports the event. -/
theorem ensures_notify_last {actor : UserId} {event : MembershipEvent} {db : Db}
    {minted : List Uuid} (hctx : ctx.actorId = some actor.inner)
    (h : TenantEffect w.now actor w.db call true (some event) db) :
    (service.notify event).Ensures (Env F) (OutcomeOf service F ctx call w)
      { w with db, minted } := by
  refine Prog.ensures_iff.mpr fun r w' hrun => .notified hctx h hrun fun hr => ?_
  cases r with
  | error e => cases hr
  | ok _ => rfl

/-- A use case that reads on after its report, and may fail then. -/
theorem ensures_notify {actor : UserId} {event : MembershipEvent} {db : Db} {minted : List Uuid}
    {α : Type} {f : Unit → Action TenantError α} (hctx : ctx.actorId = some actor.inner)
    (h : TenantEffect w.now actor w.db call true (some event) db)
    (hf : ∀ w', (f ()).Reads (Env F) w' fun _ => True) :
    (service.notify event >>= f).Ensures (Env F) (OutcomeOf service F ctx call w)
      { w with db, minted } := by
  refine Prog.wp_bind.mpr (Prog.ensures_iff.mpr fun r₁ w₁ hrun => ?_)
  cases r₁ with
  | error e => exact .notified hctx h hrun fun h => by cases h
  | ok a =>
    refine Prog.wp.mono (hf w₁) ?_
    rintro r w' ⟨rfl, -⟩
    exact .notified hctx h hrun fun _ => rfl

/-- A call whose single write comes last. -/
theorem ensures_writes {α : Type} {p : Action TenantError α} {S : World → Prop}
    (hp : p.Writes (Env F) w₁ fun _ w' => S w')
    (herr : ∀ e, CallOutcome service F ctx call w (.error e) w₁)
    (hok : ∀ w', S w' → CallOutcome service F ctx call w (.ok ()) w') :
    p.Ensures (Env F) (OutcomeOf service F ctx call w) w₁ := by
  refine Prog.wp.mono hp fun r w' h => ?_
  cases r with
  | ok a => exact hok w' h
  | error e => obtain rfl := h; exact herr e

/-- Creating a tenant. -/
theorem TenantService.ensures_createTenant (slug name : String) :
    (service.createTenant ctx slug name).Ensures (Env F)
      (OutcomeOf service F ctx (.createTenant slug name) w) w := by
  refine reads_requireActor.bind_ensures (fun _ => .nothing) fun actor hctx => ?_
  refine (Prog.reads_done _).bind_ensures (fun _ => .nothing) fun slug' hslug => ?_
  refine Prog.wp_bind.mpr (ensures_newUuid fun id => ?_)
  refine reads_now.bind_ensures (fun _ => .nothing) fun t ht => ?_
  refine (Prog.reads_done _).bind_ensures (fun _ => .nothing) fun tenant htenant => ?_
  have hnew : TenantSlug.parse slug = .ok tenant.slug ∧
      Tenant.create tenant.id tenant.slug name actor tenant.createdAt = .ok tenant := by
    have hcreate := Except.mapError_eq_ok.mp htenant
    obtain ⟨-, rfl⟩ := Tenant.create_eq_ok.mp hcreate
    exact ⟨Except.mapError_eq_ok.mp hslug, hcreate⟩
  refine Prog.wp_bind.mpr (Prog.wp_mapErr.mpr
    (Prog.wp.mono (PgTenantRepository.ensures_create tenant) ?_))
  rintro r w' ⟨minted, ⟨e, rfl, rfl⟩ | ⟨ids, row, db, h, rfl, rfl⟩⟩
  · exact .nothing
  · have heffect : TenantEffect w.now actor w.db (.createTenant slug name) true
        (some (.added tenant.id actor .owner)) db := .created hnew.1 hnew.2 h
    cases hmap : mapTenantRow row with
    | error e => exact .failed hctx heffect
    | ok created =>
      obtain ⟨_, rfl⟩ := createTenantTx_row h
      have hid : created.id = tenant.id := mapTenantRow_id hmap
      rw [← hid] at heffect
      exact ensures_notify hctx heffect fun _ => (Prog.reads_pure _).mono fun _ _ => trivial

/-- Renaming a tenant. -/
theorem TenantService.ensures_updateTenant (slug name : String) :
    (TenantService.updateTenant ctx slug name).Ensures (Env F)
      (OutcomeOf service F ctx (.updateTenant slug name) w) w := by
  refine ensures_guarded (fun _ => .nothing) fun actor row tenant hctx hrow hmap hgrant => ?_
  refine reads_now.bind_ensures (fun _ => .nothing) fun t ht => ?_
  subst ht
  refine (Prog.reads_done _).bind_ensures (fun _ => .nothing) fun renamed hrenamed => ?_
  have hrenamed : renamed = { tenant with name, updatedAt := w.now } := by
    unfold Tenant.rename at hrenamed
    split at hrenamed
    · cases hrenamed
    · exact (Except.ok.inj hrenamed).symm
  refine ensures_writes (PgTenantRepository.writes_update renamed).mapErr (fun _ => .nothing) ?_
  subst hrenamed
  rintro w' ⟨n, db, h, rfl⟩
  exact .silent hctx (.renamed hrow hmap hgrant h)

/-- Deleting a tenant. -/
theorem TenantService.ensures_deleteTenant (slug : String) :
    (TenantService.deleteTenant ctx slug).Ensures (Env F)
      (OutcomeOf service F ctx (.deleteTenant slug) w) w := by
  refine ensures_guarded (fun _ => .nothing) fun actor row tenant hctx hrow hmap hgrant => ?_
  rw [mapTenantRow_id hmap]
  refine ensures_writes (PgTenantRepository.writes_delete row.id).mapErr (fun _ => .nothing) ?_
  rintro w' ⟨n, db, h, rfl⟩
  exact .silent hctx (.deleted hrow hgrant h)

/-- Adding a member. -/
theorem TenantService.ensures_addMember (slug email : String) (role : TenantRole) :
    (service.addMember ctx slug email role).Ensures (Env F)
      (OutcomeOf service F ctx (.addMember slug email role) w) w := by
  refine ensures_guarded (fun _ => .nothing) fun actor row tenant hctx hrow hmap hgrant => ?_
  refine reads_findTargetUser.bind_ensures (fun _ => .nothing) fun target htarget => ?_
  refine (Prog.reads_rejectIf _ _).bind_ensures (fun _ => .nothing) fun _ hu => ?_
  rw [mapTenantRow_ownerId hmap] at hu
  refine reads_now.bind_ensures (fun _ => .nothing) fun t ht => ?_
  subst ht
  rw [mapTenantRow_id hmap]
  refine (PgMembershipRepository.writes_create _).mapErr.bind_ensures (fun _ => .nothing) ?_
  rintro created w₁ ⟨rfl, r, m, db, hr, h, rfl⟩
  exact ensures_notify hctx (.memberAdded hrow hgrant hu hr h htarget) fun _ =>
    (Prog.reads_pure _).mono fun _ _ => trivial

/-- Changing the role of a member. -/
theorem TenantService.ensures_updateMemberRole (slug email : String) (role : TenantRole) :
    (service.updateMemberRole ctx slug email role).Ensures (Env F)
      (OutcomeOf service F ctx (.updateMemberRole slug email role) w) w := by
  refine ensures_guarded (fun _ => .nothing) fun actor row tenant hctx hrow hmap hgrant => ?_
  refine reads_findTargetUser.bind_ensures (fun _ => .nothing) fun target htarget => ?_
  refine (Prog.reads_rejectIf _ _).bind_ensures (fun _ => .nothing) fun _ hu => ?_
  rw [mapTenantRow_ownerId hmap] at hu
  rw [mapTenantRow_id hmap]
  refine PgMembershipRepository.reads_find.mapErr.bind_ensures (fun _ => .nothing) fun _ _ => ?_
  refine (Prog.reads_rejectIf _ _).bind_ensures (fun _ => .nothing) fun _ _ => ?_
  refine (PgMembershipRepository.writes_updateRole _ _ _).mapErr.bind_ensures
    (fun _ => .nothing) ?_
  rintro _ w₁ ⟨r, n, db, hr, hn, h, rfl⟩
  exact ensures_notify_last hctx (.memberUpdated hrow hgrant hu hr h hn htarget)

/-- Removing a member. -/
theorem TenantService.ensures_removeMember (slug email : String) :
    (service.removeMember ctx slug email).Ensures (Env F)
      (OutcomeOf service F ctx (.removeMember slug email) w) w := by
  refine ensures_guarded (fun _ => .nothing) fun actor row tenant hctx hrow hmap hgrant => ?_
  refine reads_findTargetUser.bind_ensures (fun _ => .nothing) fun target htarget => ?_
  refine (Prog.reads_rejectIf _ _).bind_ensures (fun _ => .nothing) fun _ hu => ?_
  rw [mapTenantRow_ownerId hmap] at hu
  rw [mapTenantRow_id hmap]
  refine (PgMembershipRepository.writes_delete _ _).mapErr.bind_ensures (fun _ => .nothing) ?_
  rintro _ w₁ ⟨n, db, hn, h, rfl⟩
  exact ensures_notify_last hctx (.memberRemoved hrow hgrant hu h hn htarget)

/-- Creating an invite. -/
theorem TenantService.ensures_createInvite (slug email : String) (role : TenantRole) :
    (TenantService.createInvite ctx slug email role).Ensures (Env F)
      (OutcomeOf service F ctx (.createInvite slug email role) w) w := by
  refine ensures_guarded (fun _ => .nothing) fun actor row tenant hctx hrow hmap hgrant => ?_
  refine (Prog.reads_done _).bind_ensures (fun _ => .nothing) fun address _ => ?_
  rw [mapTenantRow_id hmap]
  refine PgRoleRepository.reads_findRoleByName.mapErr.bind_ensures
    (fun _ => .nothing) fun found hfound => ?_
  refine (Prog.reads_ofOption _ _).bind_ensures (fun _ => .nothing) fun aggregate hagg => ?_
  obtain ⟨r, hr, hid⟩ := Option.map_eq_some_iff.mp (hfound.symm.trans hagg)
  refine reads_generateSecureToken.bind_ensures (fun _ => .nothing) fun token _ => ?_
  refine reads_now.bind_ensures (fun _ => .nothing) fun t ht => ?_
  refine Prog.wp_bind.mpr (ensures_newUuid fun id => ?_)
  refine Prog.wp_mapErr.mpr ((writes_execute _).mapErr.bind_ensures (fun _ => .nothing) ?_)
  rintro _ w₁ ⟨db, h, rfl⟩
  have heffect : TenantEffect w.now actor w.db (.createInvite slug email role) true none db :=
    .inviteCreated hrow hgrant hr rfl (by rw [← hid]; rfl) rfl rfl h
  have hread : (PgTenantInviteRepository.findByToken token).Reads (Env F)
      { w with db, minted := id :: w.minted } fun _ => True :=
    (reads_select _).mapErr.bind fun _ _ => (Prog.reads_pure _).mono fun _ _ => trivial
  refine hread.bind_ensures (fun _ => .failed hctx heffect) fun created _ => ?_
  exact Prog.wp_ofOption.mpr ⟨fun _ _ => .silent hctx heffect, fun _ => .failed hctx heffect⟩

/-- Accepting an invite. -/
theorem TenantService.ensures_acceptInvite (token : String) :
    (service.acceptInvite ctx token).Ensures (Env F)
      (OutcomeOf service F ctx (.acceptInvite token) w) w := by
  refine ensures_acceptable (fun _ => .nothing) fun actor inv roleName role hctx hacc _ => ?_
  refine (PgMembershipRepository.writes_createWithRoleId _ _).mapErr.bind_ensures
    (fun _ => .nothing) ?_
  rintro created w₁ ⟨rfl, m, db, h, rfl⟩
  refine (PgTenantInviteRepository.writes_markAccepted _).mapErr.bind_ensures
    (fun _ => .failed hctx (.inviteInserted hacc h)) ?_
  rintro _ w₂ ⟨n, db₂, -, hmark, rfl⟩
  refine ensures_notify hctx (.inviteAccepted hacc h hmark) fun w' => ?_
  have hread : (PgTenantRepository.findById inv.tenantId).Reads (Env F) w' fun _ => True :=
    (reads_select _).mapErr.bind fun _ _ => (Prog.reads_done _).mono fun _ _ => trivial
  refine hread.mapErr.bind fun _ _ => (Prog.reads_ofOption _ _).bind fun _ _ => ?_
  exact (Prog.reads_pure _).mono fun _ _ => trivial

/-- Creating a role. -/
theorem TenantService.ensures_createRole (slug name description : String)
    (permissionIds : List PermissionId) :
    (TenantService.createRole ctx slug name description permissionIds).Ensures (Env F)
      (OutcomeOf service F ctx (.createRole slug name description permissionIds) w) w := by
  refine ensures_guarded (fun _ => .nothing) fun actor row tenant hctx hrow hmap hgrant => ?_
  refine (Prog.reads_rejectIf _ _).bind_ensures (fun _ => .nothing) fun _ _ => ?_
  refine Prog.wp_bind.mpr (ensures_newUuid fun id => ?_)
  refine reads_now.bind_ensures (fun _ => .nothing) fun t ht => ?_
  refine (writes_transact _).mapErr.bind_ensures (fun _ => .nothing) ?_
  rintro _ w₁ ⟨db, h, rfl⟩
  rw [mapTenantRow_id hmap] at h
  exact Prog.wp_pure.mpr (.silent hctx (.roleCreated hrow hgrant rfl ⟨rfl, rfl⟩ rfl h))

/-- Replacing the permissions of a role. -/
theorem TenantService.ensures_updateRole (slug : String) (roleId : RoleId)
    (permissionIds : List PermissionId) :
    (TenantService.updateRole ctx slug roleId permissionIds).Ensures (Env F)
      (OutcomeOf service F ctx (.updateRole slug roleId permissionIds) w) w := by
  refine ensures_guarded (fun _ => .nothing) fun actor row tenant hctx hrow hmap hgrant => ?_
  rw [mapTenantRow_id hmap]
  refine reads_findRoleById.mapErr.bind_ensures (fun _ => .nothing) fun _ _ => ?_
  refine (Prog.reads_ofOption _ _).bind_ensures (fun _ => .nothing) fun _ _ => ?_
  refine (writes_transact _).mapErr.bind_ensures (fun _ => .nothing) ?_
  rintro _ w₁ ⟨db, h, rfl⟩
  have heffect : TenantEffect w.now actor w.db (.updateRole slug roleId permissionIds) true none
      db := .roleUpdated hrow hgrant h
  refine reads_findRoleById.mapErr.bind_ensures (fun _ => .failed hctx heffect) fun _ _ => ?_
  exact Prog.wp_ofOption.mpr ⟨fun _ _ => .silent hctx heffect, fun _ => .failed hctx heffect⟩

/-- Deleting a role. -/
theorem TenantService.ensures_deleteRole (slug : String) (roleId : RoleId) :
    (TenantService.deleteRole ctx slug roleId).Ensures (Env F)
      (OutcomeOf service F ctx (.deleteRole slug roleId) w) w := by
  refine ensures_guarded (fun _ => .nothing) fun actor row tenant hctx hrow hmap hgrant => ?_
  rw [mapTenantRow_id hmap]
  refine reads_findRoleById.mapErr.bind_ensures (fun _ => .nothing) fun _ _ => ?_
  refine (Prog.reads_ofOption _ _).bind_ensures (fun _ => .nothing) fun _ _ => ?_
  refine ensures_writes (PgRoleRepository.writes_deleteRole row.id roleId).mapErr
    (fun _ => .nothing) ?_
  rintro w' ⟨n, db, h, hn, rfl⟩
  exact .silent hctx (.roleDeleted hrow hgrant h hn)

end Calls

/-- **Every run of a call has an outcome**, whatever fails in it. -/
theorem TenantCall.ensures (service : TenantService) (F : Req → Prop) (ctx : ExecutionContext)
    (call : TenantCall) (w : World) :
    (call.run service ctx).Ensures (Env F) (CallOutcome service F ctx call w) w := by
  cases call with
  | createTenant slug name => exact Prog.wp_map.mpr (TenantService.ensures_createTenant slug name)
  | updateTenant slug name => exact Prog.wp_map.mpr (TenantService.ensures_updateTenant slug name)
  | deleteTenant slug =>
    exact Prog.wp.mono (TenantService.ensures_deleteTenant slug) fun _ _ =>
      OutcomeOf.toUnit
  | addMember slug email role =>
    exact Prog.wp_map.mpr (TenantService.ensures_addMember slug email role)
  | updateMemberRole slug email role =>
    exact Prog.wp.mono (TenantService.ensures_updateMemberRole slug email role) fun _ _ =>
      OutcomeOf.toUnit
  | removeMember slug email =>
    exact Prog.wp.mono (TenantService.ensures_removeMember slug email) fun _ _ =>
      OutcomeOf.toUnit
  | createInvite slug email role =>
    exact Prog.wp_map.mpr (TenantService.ensures_createInvite slug email role)
  | acceptInvite token => exact Prog.wp_map.mpr (TenantService.ensures_acceptInvite token)
  | createRole slug name description permissionIds =>
    exact Prog.wp_map.mpr
      (TenantService.ensures_createRole slug name description permissionIds)
  | updateRole slug roleId permissionIds =>
    exact Prog.wp_map.mpr (TenantService.ensures_updateRole slug roleId permissionIds)
  | deleteRole slug roleId =>
    exact Prog.wp.mono (TenantService.ensures_deleteRole slug roleId) fun _ _ =>
      OutcomeOf.toUnit

/-- The outcome of a run of a call. -/
theorem TenantCall.outcome {service : TenantService} {F : Req → Prop} {ctx : ExecutionContext}
    {call : TenantCall} {w w' : World} {r : Except TenantError Unit}
    (h : (call.run service ctx).Exec (Env F) w r w') : CallOutcome service F ctx call w r w' :=
  (TenantCall.ensures service F ctx call w).of_exec h

end Klynt
