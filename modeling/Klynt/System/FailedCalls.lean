import Klynt.System.TenantRun

set_option relaxedAutoImplicit false
set_option autoImplicit false

/-!
# Calls that fail

The five calls that change memberships write, and then report the change to the coordinator of
sessions; nothing undoes the write if the report fails.  So a call that returns an error has
left the tables as they were, or has changed them completely and failed later, and in most cases
the error tells which.

## Main definitions

* `TenantCall.ChangesMembers` — the five calls.
* `TenantCall.FailsLate` — the errors of a call that has done its work.
* `FailedCall` — what a call that returned an error has done.

## Main results

* `membership_calls_fail` — all or nothing, before or after the write.
* `add_member_fails_late` — an error after a member was added.

## Implementation notes

The acceptance of an invite writes twice.  Nothing is said here about the case that its second
statement, which marks the invite, is refused by the database.
-/

namespace Klynt

variable [Unicode]

/-- The calls that change memberships. -/
def TenantCall.ChangesMembers : TenantCall → Prop
  | createTenant _ _ | addMember _ _ _ | updateMemberRole _ _ _ | removeMember _ _
  | acceptInvite _ => True
  | _ => False

/-- The errors of a call that has done its work: the report of the change failed, the row of a
created tenant could not be read back, or the tenant of an accepted invite was not found. -/
def TenantCall.FailsLate : TenantCall → TenantError → Prop
  | addMember _ _ _, e | updateMemberRole _ _ _, e | removeMember _ _, e =>
    ∃ text, e = .sessionCoordinator text
  | createTenant _ _, e => (∃ text, e = .sessionCoordinator text) ∨ ∃ d, e = .domain d
  | acceptInvite _, e =>
    (∃ text, e = .sessionCoordinator text) ∨ (∃ d, e = .domain d) ∨ e = .notFound
  | _, _ => False

/-- What a call that returned the error `e` has done. -/
inductive FailedCall (ctx : ExecutionContext) (call : TenantCall) (w : World) (e : TenantError) :
    World → Prop
  /-- Nothing; it may have drawn UUIDs. -/
  | nothing {minted : List Uuid} : FailedCall ctx call w e { w with minted }
  /-- Everything, and it failed afterwards. -/
  | late {actor : UserId} {event : MembershipEvent} {db : Db} {w' : World}
      (hctx : ctx.actorId = some actor.inner)
      (h : TenantEffect w.now actor w.db call true (some event) db) (hs : db.SameTenancy w'.db)
      (he : call.FailsLate e) : FailedCall ctx call w e w'

/-- What a use case that returned an error has done. -/
abbrev FailsAs (ctx : ExecutionContext) (call : TenantCall) (w : World) {α : Type}
    (r : Except TenantError α) (w' : World) : Prop :=
  ∀ e, r = .error e → FailedCall ctx call w e w'

section Calls

variable {enabled : Bool} {backend : SessionBackend} {F : Req → Prop} {ctx : ExecutionContext}
  {call : TenantCall} {w : World} {minted : List Uuid}

/-- A use case that has not written yet. -/
lemma failsAs_nothing {α : Type} (e : TenantError) :
    FailsAs ctx call w (.error e : Except TenantError α) { w with minted } :=
  fun _ _ => .nothing

omit [Unicode] in
/-- A failed report is an error of the coordinator, and tenant tables stay. -/
lemma ensures_notify_failed (event : MembershipEvent) {w : World} :
    ((platform enabled backend).notify event).Ensures (Env F) (fun r w' =>
      w.db.SameTenancy w'.db ∧ ∀ e, r = .error e → ∃ text, e = .sessionCoordinator text) w := by
  refine Prog.ensures_iff.mpr fun r w' hrun => ⟨?_, ?_⟩
  · obtain ⟨_, _, _, rfl⟩ := sessionsMoved_of_exec (all_notify enabled backend event) hrun
    exact ⟨_, _, _, _, _, rfl⟩
  · rintro e rfl
    obtain ⟨r', -, hr'⟩ := Prog.exec_mapErr.mp hrun
    cases r' with
    | ok _ => cases hr'
    | error e' => exact ⟨_, Except.error.inj hr'⟩

/-- After its last write a use case reports the change and may read on. -/
lemma ensures_late {α : Type} {actor : UserId} {event : MembershipEvent} {db : Db}
    {f : Unit → Action TenantError α} (hctx : ctx.actorId = some actor.inner)
    (h : TenantEffect w.now actor w.db call true (some event) db)
    (hcoordinator : ∀ text, call.FailsLate (.sessionCoordinator text))
    (hf : ∀ w', (f ()).Ensures (Env F) (fun r w'' => w'' = w' ∧
      ∀ e, r = .error e → call.FailsLate e) w') :
    ((platform enabled backend).notify event >>= f).Ensures (Env F) (FailsAs ctx call w)
      { w with db, minted } := by
  refine Prog.wp_bind.mpr (Prog.wp.mono (ensures_notify_failed event) ?_)
  rintro r w₁ ⟨hs, herr⟩
  cases r with
  | error e =>
    obtain ⟨text, rfl⟩ := herr e rfl
    intro e' he'
    obtain rfl := Except.error.inj he'
    exact .late hctx h hs (hcoordinator text)
  | ok _ =>
    refine Prog.wp.mono (hf w₁) ?_
    rintro r w' ⟨rfl, hr⟩ e rfl
    exact .late hctx h hs (hr e rfl)

/-- A use case whose report comes last. -/
lemma ensures_late_last {actor : UserId} {event : MembershipEvent} {db : Db}
    (hctx : ctx.actorId = some actor.inner)
    (h : TenantEffect w.now actor w.db call true (some event) db)
    (hcoordinator : ∀ text, call.FailsLate (.sessionCoordinator text)) :
    ((platform enabled backend).notify event).Ensures (Env F) (FailsAs ctx call w)
      { w with db, minted } := by
  refine Prog.wp.mono (ensures_notify_failed event) ?_
  rintro r w' ⟨hs, herr⟩ e rfl
  obtain ⟨text, rfl⟩ := herr e rfl
  exact .late hctx h hs (hcoordinator text)

omit [Unicode] in
/-- Returning a value is no failure. -/
lemma ensures_pure_late {α : Type} (a : α) (w : World) :
    (pure a : Action TenantError α).Ensures (Env F) (fun r w' => w' = w ∧
      ∀ e, r = .error e → call.FailsLate e) w :=
  Prog.wp_pure.mpr ⟨rfl, fun _ he => by cases he⟩

/-- The failures of creating a tenant. -/
lemma TenantService.fails_createTenant (slug name : String) :
    ((platform enabled backend).createTenant ctx slug name).Ensures (Env F)
      (FailsAs ctx (.createTenant slug name) w) w := by
  refine reads_requireActor.bind_ensures failsAs_nothing fun actor hctx => ?_
  refine (Prog.reads_done _).bind_ensures failsAs_nothing fun slug' hslug => ?_
  refine Prog.wp_bind.mpr (ensures_newUuid fun id => ?_)
  refine reads_now.bind_ensures failsAs_nothing fun t ht => ?_
  refine (Prog.reads_done _).bind_ensures failsAs_nothing fun tenant htenant => ?_
  have hnew : TenantSlug.parse slug = .ok tenant.slug ∧
      Tenant.create tenant.id tenant.slug name actor tenant.createdAt = .ok tenant := by
    have hcreate := Except.mapError_eq_ok.mp htenant
    obtain ⟨-, rfl⟩ := Tenant.create_eq_ok.mp hcreate
    exact ⟨Except.mapError_eq_ok.mp hslug, hcreate⟩
  refine Prog.wp_bind.mpr (Prog.wp_mapErr.mpr
    (Prog.wp.mono (PgTenantRepository.ensures_create tenant) ?_))
  rintro r w' ⟨minted, ⟨e, rfl, rfl⟩ | ⟨ids, row, db, h, rfl, rfl⟩⟩
  · exact failsAs_nothing _
  · have heffect : TenantEffect w.now actor w.db (.createTenant slug name) true
        (some (.added tenant.id actor .owner)) db := .created hnew.1 hnew.2 h
    cases hmap : mapTenantRow row with
    | error e =>
      intro e' he'
      obtain rfl := Except.error.inj he'
      exact .late hctx heffect (.refl _) (.inr ⟨e, rfl⟩)
    | ok created =>
      obtain ⟨_, rfl⟩ := createTenantTx_row h
      have hid : created.id = tenant.id := mapTenantRow_id hmap
      rw [← hid] at heffect
      exact ensures_late hctx heffect (fun text => .inl ⟨text, rfl⟩) fun w' => ensures_pure_late _ w'

/-- The failures of adding a member. -/
lemma TenantService.fails_addMember (slug email : String) (role : TenantRole) :
    ((platform enabled backend).addMember ctx slug email role).Ensures (Env F)
      (FailsAs ctx (.addMember slug email role) w) w := by
  refine ensures_guarded failsAs_nothing fun actor row tenant hctx hrow hmap hgrant => ?_
  refine reads_findTargetUser.bind_ensures failsAs_nothing fun target htarget => ?_
  refine (Prog.reads_rejectIf _ _).bind_ensures failsAs_nothing fun _ hu => ?_
  rw [mapTenantRow_ownerId hmap] at hu
  refine reads_now.bind_ensures failsAs_nothing fun t ht => ?_
  subst ht
  rw [mapTenantRow_id hmap]
  refine (PgMembershipRepository.writes_create _).mapErr.bind_ensures failsAs_nothing ?_
  rintro created w₁ ⟨rfl, r, m, db, hr, h, rfl⟩
  exact ensures_late hctx (.memberAdded hrow hgrant hu hr h htarget) (fun text => ⟨text, rfl⟩)
    fun w' => ensures_pure_late _ w'

/-- The failures of changing the role of a member. -/
lemma TenantService.fails_updateMemberRole (slug email : String) (role : TenantRole) :
    ((platform enabled backend).updateMemberRole ctx slug email role).Ensures (Env F)
      (FailsAs ctx (.updateMemberRole slug email role) w) w := by
  refine ensures_guarded failsAs_nothing fun actor row tenant hctx hrow hmap hgrant => ?_
  refine reads_findTargetUser.bind_ensures failsAs_nothing fun target htarget => ?_
  refine (Prog.reads_rejectIf _ _).bind_ensures failsAs_nothing fun _ hu => ?_
  rw [mapTenantRow_ownerId hmap] at hu
  rw [mapTenantRow_id hmap]
  refine PgMembershipRepository.reads_find.mapErr.bind_ensures failsAs_nothing fun _ _ => ?_
  refine (Prog.reads_rejectIf _ _).bind_ensures failsAs_nothing fun _ _ => ?_
  refine (PgMembershipRepository.writes_updateRole _ _ _).mapErr.bind_ensures failsAs_nothing ?_
  rintro _ w₁ ⟨r, n, db, hr, hn, h, rfl⟩
  exact ensures_late_last hctx (.memberUpdated hrow hgrant hu hr h hn htarget) fun text =>
    ⟨text, rfl⟩

/-- The failures of removing a member. -/
lemma TenantService.fails_removeMember (slug email : String) :
    ((platform enabled backend).removeMember ctx slug email).Ensures (Env F)
      (FailsAs ctx (.removeMember slug email) w) w := by
  refine ensures_guarded failsAs_nothing fun actor row tenant hctx hrow hmap hgrant => ?_
  refine reads_findTargetUser.bind_ensures failsAs_nothing fun target htarget => ?_
  refine (Prog.reads_rejectIf _ _).bind_ensures failsAs_nothing fun _ hu => ?_
  rw [mapTenantRow_ownerId hmap] at hu
  rw [mapTenantRow_id hmap]
  refine (PgMembershipRepository.writes_delete _ _).mapErr.bind_ensures failsAs_nothing ?_
  rintro _ w₁ ⟨n, db, hn, h, rfl⟩
  exact ensures_late_last hctx (.memberRemoved hrow hgrant hu h hn htarget) fun text =>
    ⟨text, rfl⟩

omit [Unicode] in
/-- A statement that is not refused. -/
lemma ensures_execute_of_not {u : Update} {r : u.Res} {db : Db}
    {Q : Except SqlxError u.Res → World → Prop}
    (hF : ¬ F (.update u)) (hx : u.exec w.now w.db = .ok (r, db)) (hQ : Q (.ok r) { w with db }) :
    (execute u).Ensures (Env F) Q w := by
  refine Prog.ensures_ask.mpr ?_
  rintro a w' (⟨r', db', hx', rfl, rfl⟩ | ⟨e, hx', -, -⟩ | ⟨hfail, -, -⟩)
  · obtain ⟨rfl, rfl⟩ := Prod.mk.inj (Except.ok.inj (hx.symm.trans hx'))
    exact hQ
  · rw [hx] at hx'
    cases hx'
  · exact absurd hfail hF

omit [Unicode] in
/-- A stored invite is marked, unless the statement is refused. -/
lemma PgTenantInviteRepository.ensures_markAccepted {id : Uuid}
    {Q : Except RepositoryError Unit → World → Prop} (hF : ¬ F (.update (.acceptInvite id)))
    (hmem : ∃ i ∈ w.db.invites, i.id = id)
    (hQ : ∀ n db, markInviteAccepted id w.now w.db = .ok (n, db) → Q (.ok ()) { w with db }) :
    (markAccepted id).Ensures (Env F) Q w := by
  obtain ⟨i, hi, hid⟩ := hmem
  have hcount : w.db.invites.countP (·.id = id) ≠ 0 := fun hzero =>
    List.countP_eq_zero.mp hzero i hi (decide_eq_true hid)
  refine Prog.wp_bind.mpr (Prog.wp_mapErr.mpr (ensures_execute_of_not hF rfl ?_))
  exact Prog.wp_rejectIf.mpr ⟨fun _ => hQ _ _ rfl, fun h => absurd h hcount⟩

/-- The failures of accepting an invite, if it can be marked. -/
lemma TenantService.fails_acceptInvite (hF : ∀ id, ¬ F (.update (.acceptInvite id)))
    (token : String) :
    ((platform enabled backend).acceptInvite ctx token).Ensures (Env F)
      (FailsAs ctx (.acceptInvite token) w) w := by
  refine reads_requireActor.bind_ensures failsAs_nothing fun actor hctx => ?_
  refine reads_findByToken.mapErr.bind_ensures failsAs_nothing fun found hfound => ?_
  refine (Prog.reads_ofOption _ _).bind_ensures failsAs_nothing fun invite hinvite => ?_
  obtain ⟨⟨inv, roleName⟩, hinv, rfl⟩ := Option.map_eq_some_iff.mp (hfound.symm.trans hinvite)
  refine reads_now.bind_ensures failsAs_nothing fun t ht => ?_
  refine (Prog.reads_rejectIf _ _).bind_ensures failsAs_nothing fun _ hpending => ?_
  refine reads_findById.mapErr.bind_ensures failsAs_nothing fun found huser => ?_
  refine (Prog.reads_ofOption _ _).bind_ensures failsAs_nothing fun user hsome => ?_
  subst hsome
  refine (Prog.reads_rejectIf _ _).bind_ensures failsAs_nothing fun _ hemail => ?_
  refine (Prog.reads_done _).bind_ensures failsAs_nothing fun role hrole => ?_
  refine reads_now.bind_ensures failsAs_nothing fun joinedAt hjoined => ?_
  subst hjoined
  refine (PgMembershipRepository.writes_createWithRoleId _ _).mapErr.bind_ensures
    failsAs_nothing ?_
  rintro created w₁ ⟨rfl, m, db, h, rfl⟩
  obtain ⟨row, hrow, huser⟩ := mapOption_eq_some.mp (Except.mapError_eq_ok.mp huser)
  have hacc : Acceptable w.db actor token inv roleName role :=
    { found := hinv
      pending := (Option.not_isSome_iff_eq_none).mp (not_or.mp hpending).1
      addressed := ⟨row, user, hrow, huser, not_not.mp hemail⟩
      role := Except.mapError_eq_ok.mp hrole }
  -- the invite found is still there when it is marked
  have hmem : ∃ i ∈ db.invites, i.id = inv.id := by
    obtain ⟨-, -, -, -, -, rfl⟩ := insertMembership_ok h
    exact ⟨inv, (Db.of_invite? hinv).1, rfl⟩
  refine Prog.wp_bind.mpr (Prog.wp_mapErr.mpr
    (PgTenantInviteRepository.ensures_markAccepted (hF _) hmem fun n db₂ hmark => ?_))
  refine ensures_late hctx (.inviteAccepted hacc h hmark) (fun text => .inl ⟨text, rfl⟩) fun w' => ?_
  have hread : (PgTenantRepository.findById inv.tenantId).Reads (Env F) w' fun _ => True :=
    (reads_select _).mapErr.bind fun _ _ => (Prog.reads_done _).mono fun _ _ => trivial
  refine Prog.wp_bind.mpr (Prog.wp_mapErr.mpr (Prog.wp.mono hread ?_))
  rintro r w'' ⟨rfl, -⟩
  cases r with
  | error d =>
    refine ⟨rfl, fun e he => ?_⟩
    obtain rfl := Except.error.inj he
    exact .inr (.inl ⟨d, rfl⟩)
  | ok found =>
    refine Prog.wp_bind.mpr (Prog.wp_ofOption.mpr ⟨fun tenant _ => ensures_pure_late _ _, ?_⟩)
    refine fun _ => ⟨rfl, fun e he => ?_⟩
    obtain rfl := Except.error.inj he
    exact .inr (.inr rfl)

/-- A call that returned an error. -/
lemma TenantCall.failed_of_exec (hcall : call.ChangesMembers)
    (hF : ∀ token, call = .acceptInvite token → ∀ id, ¬ F (.update (.acceptInvite id)))
    {e : TenantError} {w' : World}
    (h : (call.run (platform enabled backend) ctx).Exec (Env F) w (.error e) w') :
    FailedCall ctx call w e w' := by
  have hmapped : ∀ {α : Type} {p : Action TenantError α}, p.Ensures (Env F) (FailsAs ctx call w) w →
      ((fun _ => ()) <$> p).Exec (Env F) w (.error e) w' → FailedCall ctx call w e w' := by
    intro α p hp hexec
    obtain ⟨r, hrun, hr⟩ := Prog.exec_map.mp hexec
    cases r with
    | ok _ => cases hr
    | error e' =>
      obtain rfl := Except.error.inj hr
      exact hp.of_exec hrun _ rfl
  cases call with
  | createTenant slug name => exact hmapped (TenantService.fails_createTenant slug name) h
  | addMember slug email role => exact hmapped (TenantService.fails_addMember slug email role) h
  | updateMemberRole slug email role =>
    exact (TenantService.fails_updateMemberRole slug email role).of_exec h _ rfl
  | removeMember slug email =>
    exact (TenantService.fails_removeMember slug email).of_exec h _ rfl
  | acceptInvite token =>
    exact hmapped (TenantService.fails_acceptInvite (hF token rfl) token) h
  | _ => exact hcall.elim

/-- **A membership call that returns an error has done nothing or everything.** In every state,
whatever fails in the call (marking an invite apart), the database is as before the call, or
tenants, memberships and invites are as the complete call leaves them, and the error is one of a
later step: of the coordinator of sessions, and for the creation of a tenant or the acceptance
of an invite of the tenant read at the end.

**Proof sketch.** The reads before the write change nothing, and a refused write has no effect.
The coordinator changes sessions only. -/
theorem membership_calls_fail (hcall : call.ChangesMembers)
    (hF : ∀ token, call = .acceptInvite token → ∀ id, ¬ F (.update (.acceptInvite id)))
    {e : TenantError} {w' : World}
    (h : (call.run (platform enabled backend) ctx).Exec (Env F) w (.error e) w') :
    w'.db = w.db ∨ ∃ actor event db, ctx.actorId = some actor.inner ∧
      TenantEffect w.now actor w.db call true (some event) db ∧ w'.db.tenants = db.tenants ∧
      w'.db.memberships = db.memberships ∧ w'.db.invites = db.invites ∧ call.FailsLate e := by
  cases TenantCall.failed_of_exec hcall hF h with
  | nothing => exact .inl rfl
  | @late actor event db w' hctx heff hs he =>
    obtain ⟨_, _, _, _, _, hdb⟩ := hs
    rw [hdb]
    exact .inr ⟨actor, event, db, hctx, heff, rfl, rfl, rfl, he⟩

end Calls

namespace Scenario

omit [Unicode]

/-- The answers of a world in which sessions cannot be edited. -/
def answerDown : (q : Req) → World → Ans q × World
  | .update (.addSnapshot _ _), w | .update (.removeSnapshot _ _), w => (.error (.other "down"), w)
  | q, w => w.answer q

/-- Such answers are allowed where everything may fail. -/
lemma env_answerDown (q : Req) (w : World) :
    Env anyFault q w (answerDown q w).1 (answerDown q w).2 := by
  unfold answerDown
  split
  · exact .inr (.inr ⟨trivial, ⟨_, rfl⟩, rfl⟩)
  · exact .inr (.inr ⟨trivial, ⟨_, rfl⟩, rfl⟩)
  · exact env_answer anyFault _ _

/-- The owner of a tenant adds a member while sessions cannot be edited. -/
def addedDown : Except TenantError Unit × World :=
  letI := Unicode.ascii
  ((TenantCall.addMember "acme" "bob@x.org" .member).run (platform true .database) (ctx 901)).eval
    answerDown (played [(901, .createTenant "acme" "Acme")])

/-- The outcome of the addition. -/
def addedDownError : TenantError :=
  match addedDown.1 with
  | .ok _ => .notFound
  | .error e => e

/-- It is a run of the call. -/
lemma exec_addedDown :
    (@TenantCall.run Unicode.ascii (platform true .database) (ctx 901)
      (.addMember "acme" "bob@x.org" .member)).Exec (Env anyFault)
      (played [(901, .createTenant "acme" "Acme")]) (.error addedDownError) addedDown.2 := by
  have herror : addedDown.1.isOk = false := by decide +kernel
  have hrun : Prog.Exec (Env anyFault) _ _ addedDown.1 addedDown.2 := Prog.exec_eval env_answerDown
  unfold addedDownError
  cases hr : addedDown.1 with
  | ok _ =>
    rw [hr] at herror
    cases herror
  | error e =>
    rw [hr] at hrun
    exact hrun

end Scenario

omit [Unicode] in
/-- The addition of a member that failed has done nothing or everything. -/
theorem membership_calls_fail_added :
    Scenario.addedDown.2.db = (Scenario.played [(901, .createTenant "acme" "Acme")]).db ∨
    ∃ actor event db, (Scenario.ctx 901).actorId = some actor.inner ∧
      @TenantEffect Unicode.ascii 0 actor (Scenario.played [(901, .createTenant "acme" "Acme")]).db
        (.addMember "acme" "bob@x.org" .member) true (some event) db ∧
      Scenario.addedDown.2.db.tenants = db.tenants ∧
      Scenario.addedDown.2.db.memberships = db.memberships ∧
      Scenario.addedDown.2.db.invites = db.invites ∧
      TenantCall.FailsLate (.addMember "acme" "bob@x.org" .member) Scenario.addedDownError := by
  have hnow : (Scenario.played [(901, .createTenant "acme" "Acme")]).now = 0 := by decide +kernel
  rw [← hnow]
  have hcall : TenantCall.ChangesMembers (.addMember "acme" "bob@x.org" .member) := trivial
  exact @membership_calls_fail Unicode.ascii _ _ _ _ _ _ hcall nofun _ _ Scenario.exec_addedDown

omit [Unicode] in
/-- **The coordinator fails.** The addition returns an error, and there is a new membership. -/
theorem add_member_fails_late :
    (∃ tr, Run (·.db.NoTenants) (@TenantStep Unicode.ascii (platform true .database) noFault) tr
      (Scenario.played [(901, .createTenant "acme" "Acme")])) ∧
    (@TenantCall.run Unicode.ascii (platform true .database) (Scenario.ctx 901)
      (.addMember "acme" "bob@x.org" .member)).Exec (Env anyFault)
      (Scenario.played [(901, .createTenant "acme" "Acme")]) (.error Scenario.addedDownError)
      Scenario.addedDown.2 ∧
    Scenario.addedDown.2.db.memberships ≠
      (Scenario.played [(901, .createTenant "acme" "Acme")]).db.memberships :=
  ⟨⟨_, Scenario.run_played _⟩, Scenario.exec_addedDown, by decide +kernel⟩

end Klynt
