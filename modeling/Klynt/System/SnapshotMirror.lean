import Klynt.System.LoginEffect
import Klynt.System.WellFormed

set_option relaxedAutoImplicit false
set_option autoImplicit false

/-!
# Sessions mirror memberships

Users log in, verify their addresses and use the tenant service, one after another and all with
success, while session synchronisation is enabled.  The sessions that authorise requests carry
the memberships of their user, as long as nobody verifies an address as a member of a tenant
already, and nobody deletes a tenant one of whose members is signed in: a verified address gets
a session without snapshots, and the deletion of a tenant is reported to nobody.

## Main definitions

* `SessionRow.Authorises`, `Db.Mirrored` — the sessions in question, and what they carry.
* `MirrorStep`, `MirrorInit` — the runs.
* `MirrorLabel.Keeps` — the steps other than the two described above.

## Main results

* `sessions_mirror_memberships` — in runs of such steps, sessions mirror memberships.
* `deleted_tenant_stays` — after its deletion a tenant is still in a session.
-/

namespace Klynt

/-! ## Sessions and memberships -/

/-- A session that is not expired and authorises requests. -/
def SessionRow.Authorises (row : SessionRow) (now : Time) : Prop :=
  row.active now = true ∧ ∃ kind, SessionKind.tryFrom row.kind = .ok kind ∧ kind.isAccess = true

/-- Every session that authorises requests stores snapshots that mirror the memberships of its
user. -/
def Db.Mirrored (db : Db) (now : Time) : Prop :=
  ∀ row ∈ db.sessions, row.Authorises now → row.Stored ∧ Mirrors db row.userId row.snapshots

/-- A session that authorises requests did so before. -/
lemma SessionRow.Authorises.of_le {row : SessionRow} {now now' : Time} (h : row.Authorises now')
    (hle : now ≤ now') : row.Authorises now :=
  ⟨decide_eq_true (lt_of_le_of_lt hle (of_decide_eq_true h.1)), h.2⟩

/-- Refresh sessions do not authorise requests. -/
lemma not_authorises_refresh {row : SessionRow} {now : Time}
    (h : row.kind = SessionKind.refresh.asStr) : ¬ row.Authorises now := by
  rintro ⟨-, kind, hkind, haccess⟩
  rw [h, SessionKind.tryFrom_asStr] at hkind
  obtain rfl := Except.ok.inj hkind
  cases haccess

/-! ## Calls -/

variable [Unicode]

/-- The texts in the column `role` are canonical. -/
def Db.RolesNamed (db : Db) : Prop := ∀ m ∈ db.memberships, ∃ role : TenantRole, m.role = role.asStr

/-- What a complete effect does to memberships and sessions. -/
structure MembersChanged (call : TenantCall) (event : Option MembershipEvent) (db db' : Db) :
    Prop where
  /-- Sessions stay. -/
  sessions : db'.sessions = db.sessions
  /-- An event reports a change of memberships. -/
  change : ∀ e, event = some e → MembershipChange db db' e
  /-- Without an event memberships stay, unless a tenant is deleted with its memberships. -/
  silent : event = none → db'.memberships = db.memberships ∨
    ∃ slug row, call = .deleteTenant slug ∧ db.tenantNamed? slug = some row ∧
      db'.memberships = db.memberships.filter (·.tenantId ≠ row.id)
  /-- Roles stay canonical. -/
  named : db.RolesNamed → db'.RolesNamed

omit [Unicode] in
/-- Added memberships keep roles canonical. -/
lemma Db.RolesNamed.append {db db' : Db} {m : MembershipRow} {role : TenantRole}
    (h : db.RolesNamed) (hm : m.role = role.asStr) (hdb : db'.memberships = db.memberships ++ [m]) :
    db'.RolesNamed := by
  intro x hx
  rw [hdb] at hx
  rcases List.mem_append.mp hx with hx | hx
  · exact h x hx
  · obtain rfl := List.mem_singleton.mp hx
    exact ⟨role, hm⟩

/-- **The changes of memberships and the events that report them.** -/
lemma TenantEffect.members {now : Time} {actor : UserId} {db db' : Db} {call : TenantCall}
    {event : Option MembershipEvent} (h : TenantEffect now actor db call true event db')
    (hw : db.WellFormed) : MembersChanged call event db db' := by
  have hsilent : ∀ {db' : Db}, db'.sessions = db.sessions → db'.memberships = db.memberships →
      MembersChanged call none db db' := by
    intro db' hs hm
    refine ⟨hs, nofun, fun _ => .inl hm, fun hn => ?_⟩
    unfold Db.RolesNamed
    rwa [hm]
  have hadded : ∀ {db' : Db} {m : MembershipRow} {role : TenantRole}, m.role = role.asStr →
      (∀ x ∈ db.memberships, ¬ x.hasKey m.tenantId m.userId) → db'.sessions = db.sessions →
      db'.memberships = db.memberships ++ [m] →
      MembersChanged call (some (.added m.tenantId m.userId role)) db db' := by
    intro db' m role hrole hnew hs hm
    refine ⟨hs, fun e he => ?_, nofun, fun hn => hn.append hrole hm⟩
    obtain rfl := Option.some.inj he
    exact .added hrole hnew hm
  cases h with
  | created hslug hnew h =>
    obtain ⟨name, rfl, -, hid, -, -, hkey, hids, seeds, -, -, rfl⟩ :=
      createTenantTx_ok hw.roles.roleTenant hw.roles.roleIds h
    obtain ⟨-, htenant⟩ := Tenant.create_eq_ok.mp hnew
    obtain rfl : _ = actor := congrArg Tenant.ownerId htenant
    exact @hadded _ (ownerMembership _ _) .owner rfl hkey rfl rfl
  | renamed hrow htenant hgrant h =>
    obtain ⟨-, rfl⟩ | ⟨-, name', -, -, rfl⟩ := updateTenant_ok h
    · exact hsilent rfl rfl
    · exact hsilent rfl rfl
  | @deleted slug row n db' hrow hgrant h =>
    obtain ⟨-, -, hno⟩ | ⟨-, rfl⟩ := deleteTenant_ok h
    · exact absurd rfl (hno row (Db.mem_of_tenantNamed? hrow))
    · refine ⟨rfl, nofun, fun _ => .inr ⟨slug, row, rfl, hrow, rfl⟩, fun hn m hm => ?_⟩
      exact hn m (List.mem_filter.mp hm).1
  | memberAdded hrow hgrant hu hrole h =>
    obtain ⟨hkey, -, -, -, -, rfl⟩ := insertMembership_ok h
    exact hadded (m := newMembershipRow _ _ _ _ _) rfl hkey rfl rfl
  | memberUpdated hrow hgrant hu hrole h hn =>
    obtain ⟨-, -, rfl⟩ := updateMembershipRole_ok h
    refine ⟨rfl, fun e he => ?_, nofun, fun hnamed m' hm' => ?_⟩
    · obtain rfl := Option.some.inj he
      exact .updated rfl
    · obtain ⟨m, hm, rfl⟩ := List.mem_map.mp hm'
      split
      · exact ⟨_, rfl⟩
      · exact hnamed m hm
  | memberRemoved hrow hgrant hu h hn =>
    obtain ⟨-, rfl⟩ := deleteMembership_ok h
    refine ⟨rfl, fun e he => ?_, nofun, fun hnamed m hm => hnamed m (List.mem_filter.mp hm).1⟩
    obtain rfl := Option.some.inj he
    exact .removed rfl
  | inviteCreated hrow hgrant hrole htenant hroleId hby hpending h =>
    obtain ⟨_, -, -, -, -, -, rfl⟩ := insertInvite_ok h
    exact hsilent rfl rfl
  | inviteAccepted hinv h hmark =>
    obtain ⟨hkey, -, -, -, -, rfl⟩ := insertMembership_ok h
    obtain ⟨-, rfl⟩ := markInviteAccepted_ok hmark
    exact hadded (m := newMembershipRow _ _ _ _ _) rfl hkey rfl rfl
  | roleCreated hrow hgrant htenant hcustom hperms h =>
    obtain ⟨name, -, -, -, rfl⟩ := createRoleTx_ok h
    exact hsilent rfl rfl
  | roleUpdated hrow hgrant h =>
    obtain ⟨-, rfl⟩ := updateRolePermissionsTx_ok h
    exact hsilent rfl rfl
  | roleDeleted hrow hgrant h hn =>
    obtain ⟨-, rfl⟩ | ⟨-, -, -, -, rfl⟩ := deleteRole_ok h
    · exact hsilent rfl rfl
    · exact hsilent rfl rfl

/-! ## Runs -/

/-- The labels of the steps of a run. -/
inductive MirrorLabel where
  /-- A login. -/
  | login (request : LoginRequest)
  /-- The verification of an address. -/
  | verifyEmail (token : String)
  /-- A call of the tenant service. -/
  | call (ctx : ExecutionContext) (call : TenantCall)
  /-- Anything else. -/
  | other

section Runs

variable {validate : LoginRequest → Except String Unit} {sha256Hash : String → String}
  {config : SessionConfig} {backend : SessionBackend} {F : Req → Prop} {w w' : World}

/-- The steps of a run; whatever may fail, the step returned. -/
inductive MirrorStep (validate : LoginRequest → Except String Unit) (sha256Hash : String → String)
    (config : SessionConfig) (backend : SessionBackend) (F : Req → Prop) :
    World → MirrorLabel → World → Prop
  /-- A login. -/
  | login {request : LoginRequest} {response : LoginResponse} {w w' : World}
      (h : ((authPlatform validate sha256Hash config backend).login request).Exec (Env F) w
        (.ok response) w') :
      MirrorStep validate sha256Hash config backend F w (.login request) w'
  /-- The verification of an address. -/
  | verifyEmail {token : String} {cookie : SessionCookie} {w w' : World}
      (h : (Routes.verifyEmail (authPlatform validate sha256Hash config backend)
        ⟨config, backend.store⟩ token).Exec (Env F) w (.ok cookie) w') :
      MirrorStep validate sha256Hash config backend F w (.verifyEmail token) w'
  /-- A call of the tenant service. -/
  | call {ctx : ExecutionContext} {call : TenantCall} {w w' : World}
      (h : (call.run (platform true backend) ctx).Exec (Env F) w (.ok ()) w') :
      MirrorStep validate sha256Hash config backend F w (.call ctx call) w'
  /-- Time passes, and users and their tokens change. -/
  | other {w w' : World} (hnow : w.now ≤ w'.now) (hs : w.db.SameTenancy w'.db)
      (hsessions : w'.db.sessions = w.db.sessions) :
      MirrorStep validate sha256Hash config backend F w .other w'

omit [Unicode] in
/-- Where a run starts: there are no tenants and no sessions. -/
structure MirrorInit (w : World) : Prop where
  /-- No tenant. -/
  tenants : w.db.NoTenants
  /-- No session. -/
  sessions : w.db.sessions = []

/-- The steps after which sessions still mirror memberships: an address is verified only for a
user without memberships, and a tenant is deleted only if none of its members has a session that
authorises requests. -/
def MirrorLabel.Keeps (sha256Hash : String → String) (w : World) : MirrorLabel → Prop
  | verifyEmail token => ∀ row,
      w.db.emailVerificationTokens.find? (·.usable (sha256Hash token) w.now) = some row →
      w.db.membershipsOf row.userId = []
  | call _ (.deleteTenant slug) => ∀ tenant, w.db.tenantNamed? slug = some tenant →
      ∀ m ∈ w.db.memberships, m.tenantId = tenant.id →
      ∀ row ∈ w.db.sessions, row.userId = m.userId → ¬ row.Authorises w.now
  | _ => True

omit [Unicode] in
/-- The invariant of the runs. -/
structure MirrorInv (w : World) : Prop where
  /-- The tenant tables are well formed. -/
  wellFormed : w.db.WellFormed
  /-- Roles are canonical. -/
  named : w.db.RolesNamed
  /-- All sessions store their snapshots. -/
  stored : ∀ row ∈ w.db.sessions, row.Stored
  /-- Sessions mirror memberships. -/
  mirrored : w.db.Mirrored w.now

omit [Unicode] in
/-- Sessions and memberships that stay mirror each other, also later. -/
lemma MirrorInv.congr (h : MirrorInv w) (hwell : w'.db.WellFormed) (hnow : w.now ≤ w'.now)
    (hm : w'.db.memberships = w.db.memberships) (hs : w'.db.sessions = w.db.sessions) :
    MirrorInv w' := by
  refine ⟨hwell, ?_, ?_, ?_⟩
  · unfold Db.RolesNamed
    rw [hm]
    exact h.named
  · rw [hs]
    exact h.stored
  · intro row hrow hauth
    rw [hs] at hrow
    obtain ⟨hstored, hmirrors⟩ := h.mirrored row hrow (hauth.of_le hnow)
    exact ⟨hstored, (Mirrors.congr hm).mpr hmirrors⟩

omit [Unicode] in
/-- New sessions that mirror memberships, if they authorise requests. -/
lemma MirrorInv.addSessions (h : MirrorInv w) {rows : List SessionRow} {users : List UserRow}
    {tokens : List EmailVerificationTokenRow} (hnow : w'.now = w.now)
    (hdb : w'.db = { w.db with
      users, emailVerificationTokens := tokens, sessions := w.db.sessions ++ rows })
    (hrows : ∀ row ∈ rows, row.Stored ∧
      (row.Authorises w.now → Mirrors w.db row.userId row.snapshots)) : MirrorInv w' := by
  refine ⟨?_, ?_, ?_, ?_⟩
  · exact h.wellFormed.congr ⟨_, _, _, _, _, hdb⟩
  · unfold Db.RolesNamed
    rw [hdb]
    exact h.named
  · intro row hrow
    rw [hdb] at hrow
    rcases List.mem_append.mp hrow with hrow | hrow
    · exact h.stored row hrow
    · exact (hrows row hrow).1
  · intro row hrow hauth
    rw [hnow] at hauth
    have hm : w'.db.memberships = w.db.memberships := by rw [hdb]
    rw [hdb] at hrow
    rcases List.mem_append.mp hrow with hrow | hrow
    · obtain ⟨hstored, hmirrors⟩ := h.mirrored row hrow hauth
      exact ⟨hstored, (Mirrors.congr hm).mpr hmirrors⟩
    · exact ⟨(hrows row hrow).1, (Mirrors.congr hm).mpr ((hrows row hrow).2 hauth)⟩

/-- A login keeps the invariant. -/
lemma MirrorInv.login (h : MirrorInv w) {request : LoginRequest} {response : LoginResponse}
    (hx : ((authPlatform validate sha256Hash config backend).login request).Exec (Env F) w
      (.ok response) w') : MirrorInv w' := by
  obtain ⟨user, kind, hlogin, -⟩ := exec_login hx
  obtain ⟨access, refresh, l, hau, -, -, -, hrkind, hrstored, -, -, hl, hdb⟩ := hlogin.sessions
  refine h.addSessions hlogin.now hdb ?_
  intro row hrow
  rcases List.mem_cons.mp hrow with rfl | hrow
  · refine ⟨SessionRow.stored_withSnapshots, fun _ => ?_⟩
    rw [SessionRow.snapshots_withSnapshots, SessionRow.userId_withSnapshots, hau]
    exact hl h.named
  · obtain rfl := List.mem_singleton.mp hrow
    exact ⟨hrstored, fun hauth => absurd hauth (not_authorises_refresh hrkind)⟩

/-- The verification of an address keeps the invariant, if the user has no memberships. -/
lemma MirrorInv.verifyEmail (h : MirrorInv w) {token : String} {cookie : SessionCookie}
    (hx : (Routes.verifyEmail (authPlatform validate sha256Hash config backend)
      ⟨config, backend.store⟩ token).Exec (Env F) w (.ok cookie) w')
    (hkeeps : (MirrorLabel.verifyEmail token).Keeps sha256Hash w) : MirrorInv w' := by
  obtain ⟨row, id, sessionToken, hrow, -, -, hnow, hdb⟩ := exec_verifyEmail hx
  refine h.addSessions hnow hdb ?_
  intro s hs
  obtain rfl := List.mem_singleton.mp hs
  obtain ⟨hsnapshots, hstored⟩ := snapshots_newSessionRow id sessionToken row.userId .access none
    (w.now + config.duration .access) w.now
  refine ⟨hstored, fun _ => ?_⟩
  rw [hsnapshots]
  change Mirrors w.db row.userId []
  unfold Mirrors
  rw [hkeeps row hrow]
  exact List.Perm.refl _

omit [Unicode] in
/-- A change of memberships and the report of its event keep sessions in step. -/
lemma mirrored_of_change {db db₁ : Db} {now : Time} {e : MembershipEvent}
    (hstored : ∀ row ∈ db.sessions, row.Stored) (hmirrored : db.Mirrored now)
    (hsessions : db₁.sessions = db.sessions) (hchange : MembershipChange db db₁ e) :
    ({ db₁ with sessions := db₁.sessions.map (e.editRow now) } : Db).Mirrored now := by
  intro row' hrow' hauth
  obtain ⟨row, hrow, rfl⟩ := List.mem_map.mp hrow'
  rw [hsessions] at hrow
  have hrowStored := hstored row hrow
  refine ⟨e.editRow_stored now hrowStored, ?_⟩
  rw [e.editRow_eq now hrowStored] at hauth
  rw [e.editRow_eq now hrowStored, SessionRow.userId_withSnapshots, SessionRow.snapshots_withSnapshots]
  have hauth : row.Authorises now := hauth
  obtain ⟨-, hmirrors⟩ := hmirrored row hrow hauth
  refine (@Mirrors.congr db₁ _ _ _ rfl).mpr ?_
  unfold MembershipEvent.editRow
  split
  · rename_i hevent
    rw [SessionRow.snapshots_withSnapshots, hevent.1]
    rw [hevent.1] at hmirrors
    exact hchange.mirrors hmirrors
  · rename_i hevent
    have hu : row.userId ≠ e.userId := fun hu => hevent ⟨hu, hauth.1⟩
    exact (hchange.mirrors_of_ne hu).mpr hmirrors

/-- A deleted tenant keeps sessions in step, if none of its members is signed in. -/
lemma MirrorInv.deleteTenant (h : MirrorInv w) {ctx : ExecutionContext} {slug : String}
    {tenant : TenantRow} (htenant : w.db.tenantNamed? slug = some tenant)
    (hkeeps : (MirrorLabel.call ctx (.deleteTenant slug)).Keeps sha256Hash w)
    (hwell : w'.db.WellFormed) (hnamed : w'.db.RolesNamed) (hnow : w'.now = w.now)
    (hs : w'.db.sessions = w.db.sessions)
    (hm : w'.db.memberships = w.db.memberships.filter (·.tenantId ≠ tenant.id)) : MirrorInv w' := by
  refine ⟨hwell, hnamed, ?_, ?_⟩
  · rw [hs]
    exact h.stored
  · intro row hrow hauth
    rw [hs] at hrow
    rw [hnow] at hauth
    obtain ⟨hstored, hmirrors⟩ := h.mirrored row hrow hauth
    refine ⟨hstored, ?_⟩
    have hrows : w'.db.membershipsOf row.userId = w.db.membershipsOf row.userId := by
      unfold Db.membershipsOf
      rw [hm, List.filter_filter]
      refine List.filter_congr fun m hmem => ?_
      by_cases hu : m.userId = row.userId
      · have hother : m.tenantId ≠ tenant.id := fun ht =>
          hkeeps tenant htenant m hmem ht row hrow hu.symm hauth
        simp [hu, hother]
      · simp [hu]
    unfold Mirrors
    rw [hrows]
    exact hmirrors

/-- A call keeps the invariant. -/
lemma MirrorInv.call (h : MirrorInv w) {ctx : ExecutionContext} {call : TenantCall}
    (hx : (call.run (platform true backend) ctx).Exec (Env F) w (.ok ()) w')
    (hkeeps : (MirrorLabel.call ctx call).Keeps sha256Hash w) : MirrorInv w' := by
  have hwell : w'.db.WellFormed := TenantStep.wellFormed h.wellFormed (.call hx)
  generalize hr : (Except.ok () : Except TenantError Unit) = r at hx
  cases TenantCall.outcome hx with
  | nothing => cases hr
  | failed hctx heff => cases hr
  | silent hctx heff =>
    have hmembers := heff.members h.wellFormed
    rcases hmembers.silent rfl with hm | ⟨slug, tenant, rfl, htenant, hm⟩
    · exact h.congr hwell le_rfl hm hmembers.sessions
    · exact h.deleteTenant htenant hkeeps hwell (hmembers.named h.named) rfl hmembers.sessions hm
  | @notified actor event db minted r₁ r w' hctx heff hrun hok =>
    obtain rfl := hok hr.symm
    have hmembers := heff.members h.wellFormed
    have hstored : ∀ row ∈ db.sessions, row.Stored := by
      rw [hmembers.sessions]
      exact h.stored
    obtain ⟨res, hstatement, hnow⟩ :=
      SessionBackend.exec_handleMembershipEvent (Prog.exec_mapErr_ok.mp hrun)
    obtain ⟨res', hedit⟩ : ∃ res, event.statement.exec w.now db =
        .ok (res, { db with sessions := db.sessions.map (event.editRow w.now) }) :=
      event.exec_statement hstored
    obtain ⟨-, hdb⟩ := Prod.mk.inj (Except.ok.inj (hstatement.symm.trans hedit))
    refine ⟨hwell, ?_, ?_, ?_⟩
    · rw [hdb]
      exact hmembers.named h.named
    · intro row' hrow'
      rw [hdb] at hrow'
      obtain ⟨row, hrow, rfl⟩ := List.mem_map.mp hrow'
      exact event.editRow_stored _ (hstored row hrow)
    · have hnow' : w'.now = w.now := hnow
      rw [hdb, hnow']
      exact mirrored_of_change h.stored h.mirrored hmembers.sessions (hmembers.change event rfl)

/-- A step keeps the invariant, unless it is one of the two described above. -/
lemma MirrorStep.inv {l : MirrorLabel} (h : MirrorInv w) (hkeeps : l.Keeps sha256Hash w)
    (hstep : MirrorStep validate sha256Hash config backend F w l w') : MirrorInv w' := by
  cases hstep with
  | login hx => exact h.login hx
  | verifyEmail hx => exact h.verifyEmail hx hkeeps
  | call hx => exact h.call hx hkeeps
  | other hnow hs hsessions =>
    have hm : w'.db.memberships = w.db.memberships := by
      obtain ⟨_, _, _, _, _, hdb⟩ := hs
      rw [hdb]
    exact h.congr (h.wellFormed.congr hs) hnow hm hsessions

/-- **Sessions mirror memberships.**  In every state of a run of logins, verifications and calls
of the tenant service that all return, with session synchronisation enabled, every session that
authorises requests has exactly one snapshot for each membership of its user, with its role, and
no other; provided that addresses are verified for users without memberships only, and that
tenants are deleted only while none of their members is signed in.

**Proof sketch.** Each change of memberships is the one its event reports, and the edit of the
snapshots follows it (`MembershipChange.mirrors`).  A login copies the memberships.  Induction on
the run. -/
theorem sessions_mirror_memberships {tr : List (World × MirrorLabel)}
    (hr : Run MirrorInit (MirrorStep validate sha256Hash config backend F) tr w)
    (hkeeps : ∀ x ∈ tr, x.2.Keeps sha256Hash x.1) : w.db.Mirrored w.now := by
  have hinv : MirrorInv w := by
    refine hr.invariant_of_forall (C := fun w l => l.Keeps sha256Hash w) ?_
      (fun _ _ _ hi hk hs => hs.inv hi hk) hkeeps
    intro w₀ h₀
    have hnone : ∀ row ∈ w₀.db.sessions, False := by
      rw [h₀.sessions]
      exact fun _ => List.not_mem_nil
    refine ⟨h₀.tenants.wellFormed, ?_, fun row hrow => (hnone row hrow).elim,
      fun row hrow => (hnone row hrow).elim⟩
    intro m hm
    rw [h₀.tenants.memberships] at hm
    exact absurd hm List.not_mem_nil
  exact hinv.mirrored

end Runs

namespace Scenario

/-- The auth service of the small platform. -/
def auth : AuthService := authPlatform (fun _ => .ok ()) id {} .database

/-- A request of the first user to log in. -/
def loginRequest : LoginRequest := { email := "ada@x.org", password := "", rememberMe := none }

omit [Unicode]

/-- The first user creates a tenant. -/
def owning : Except TenantError Unit × World :=
  letI := Unicode.ascii
  ((TenantCall.createTenant "acme" "Acme").run (platform true .database) (ctx 901)).eval
    World.answer world

/-- Then the first user logs in. -/
def signedInOwner : Except AuthError LoginResponse × World :=
  letI := Unicode.ascii
  (auth.login loginRequest).eval World.answer owning.2

/-- Then the first user deletes the tenant. -/
def disowned : Except TenantError Unit × World :=
  letI := Unicode.ascii
  ((TenantCall.deleteTenant "acme").run (platform true .database) (ctx 901)).eval World.answer
    signedInOwner.2

/-- The first user has created a tenant and has logged in. -/
lemma run_signedInOwner :
    Run MirrorInit (@MirrorStep Unicode.ascii (fun _ => .ok ()) id {} .database noFault)
      [(owning.2, .login loginRequest), (world, .call (ctx 901) (.createTenant "acme" "Acme"))]
      signedInOwner.2 := by
  obtain ⟨hcreate, hlogin⟩ : owning.1.isOk = true ∧ signedInOwner.1.isOk = true := by
    decide +kernel
  obtain ⟨_, hcreate⟩ := exec_of_isOk hcreate noFault
  obtain ⟨response, hlogin⟩ := exec_of_isOk hlogin noFault
  exact .snoc (.snoc (.start ⟨⟨rfl, rfl, rfl, rfl, rfl⟩, rfl⟩)
    (@MirrorStep.call Unicode.ascii _ _ _ _ _ _ _ _ _ hcreate))
    (@MirrorStep.login Unicode.ascii _ _ _ _ _ _ _ _ _ hlogin)

end Scenario

omit [Unicode] in
/-- The owner of a tenant logs in; the access session mirrors the membership. -/
theorem sessions_mirror_memberships_login :
    (Scenario.signedInOwner.2.db.sessions.map (·.snapshots.length) = [1, 0]) ∧
      Scenario.signedInOwner.2.db.Mirrored Scenario.signedInOwner.2.now := by
  refine ⟨by decide +kernel, @sessions_mirror_memberships Unicode.ascii _ _ _ _ _ _ _
    Scenario.run_signedInOwner ?_⟩
  intro x hx
  simp only [List.mem_cons, List.not_mem_nil, or_false] at hx
  rcases hx with rfl | rfl
  · trivial
  · trivial

omit [Unicode] in
/-- **A deleted tenant stays in a session**: after the owner has created a tenant, logged in and
deleted the tenant, the access session carries a snapshot and there is no membership. -/
theorem deleted_tenant_stays :
    ∃ tr, Run MirrorInit (@MirrorStep Unicode.ascii (fun _ => .ok ()) id {} .database noFault) tr
        Scenario.disowned.2 ∧
      ¬ Scenario.disowned.2.db.Mirrored Scenario.disowned.2.now := by
  obtain ⟨hdelete, hsession, hnone⟩ : Scenario.disowned.1.isOk = true ∧
      (Scenario.disowned.2.db.sessions.any fun r =>
        r.active Scenario.disowned.2.now && r.kind == "access" && r.snapshots.length == 1) = true ∧
      Scenario.disowned.2.db.memberships = [] := by decide +kernel
  obtain ⟨_, hdelete⟩ := exec_of_isOk hdelete noFault
  refine ⟨_, Scenario.run_signedInOwner.snoc
    (@MirrorStep.call Unicode.ascii _ _ _ _ _ _ _ _ _ hdelete), fun hmirrored => ?_⟩
  obtain ⟨row, hrow, hrow'⟩ := List.any_eq_true.mp hsession
  simp only [Bool.and_eq_true, beq_iff_eq] at hrow'
  obtain ⟨⟨hactive, hkind⟩, hlength⟩ := hrow'
  have hauth : row.Authorises Scenario.disowned.2.now :=
    ⟨hactive, .access, by rw [hkind]; rfl, rfl⟩
  have hperm := (hmirrored row hrow hauth).2.length_eq
  rw [Db.membershipsOf, hnone, List.length_map, hlength] at hperm
  cases hperm

end Klynt
