import Klynt.Lib.Run
import Klynt.Persistence.SessionFrame
import Klynt.System.CallEffect

set_option relaxedAutoImplicit false
set_option autoImplicit false

/-!
# Runs of the tenant service

A run is a sequence of calls by any actors, each with any pattern of failing requests,
between which the clock moves and the other services change users, tokens, desktop layouts,
sessions and the cache as they like.

## Main definitions

* `SessionBackend`, `platform` — the tenant service as the platform runs it.
* `Db.SameTenancy` — two databases agree on the tables of the tenant service.
* `TenantStep`, `Db.NoTenants` — the steps of a run, and where it starts.

## Main results

* `TenantCall.effect_of_exec` — on those tables, a call has an effect of `TenantEffect` or
  none.
-/

namespace Klynt

/-! ## The platform -/

/-- The session stores the platform is run with. -/
inductive SessionBackend where
  /-- The store over the database. -/
  | database
  /-- The cached store, with or without a connection to the cache. -/
  | cached (connected : Bool)

/-- The store of a backend. -/
def SessionBackend.store : SessionBackend → SessionStore
  | database => PgSessionStore.store
  | cached connected => CachedSessionStore.store connected

/-- The tenant service of the platform, with session synchronisation enabled or not. -/
def platform (enabled : Bool) (backend : SessionBackend) : TenantService :=
  ⟨⟨enabled, backend.store⟩⟩

/-! ## Databases with the same tenancy -/

/-- The databases agree on the tables of the tenant service. -/
def Db.SameTenancy (db db' : Db) : Prop :=
  ∃ users emailVerificationTokens passwordResetTokens desktopLayouts sessions,
    db' = { db with
      users, emailVerificationTokens, passwordResetTokens, desktopLayouts, sessions }

/-- A database agrees with itself. -/
theorem Db.SameTenancy.refl (db : Db) : db.SameTenancy db := ⟨_, _, _, _, _, rfl⟩

/-- Agreement is transitive. -/
theorem Db.SameTenancy.trans {db₁ db₂ db₃ : Db} (h : db₁.SameTenancy db₂)
    (h' : db₂.SameTenancy db₃) : db₁.SameTenancy db₃ := by
  obtain ⟨_, _, _, _, _, rfl⟩ := h
  obtain ⟨_, _, _, _, _, rfl⟩ := h'
  exact ⟨_, _, _, _, _, rfl⟩

/-- What is granted depends on the tables of the tenant service only. -/
theorem Db.SameTenancy.grants_iff [Unicode] {db db' : Db} (h : db.SameTenancy db') {t : TenantId}
    {u : UserId} {name : String} : db'.Grants t u name ↔ db.Grants t u name := by
  obtain ⟨_, _, _, _, _, rfl⟩ := h; rfl

/-! ## The report of an event -/

/-- The requests of the report of an event: the clock, the edit of the user's sessions, and the
invalidation of their cache entries. -/
theorem all_notify_of {φ : Req → Prop} (hclock : φ .clock)
    (hadd : ∀ u s, φ (.update (.addSnapshot u s)))
    (hupdate : ∀ u s, φ (.update (.updateSnapshot u s)))
    (hremove : ∀ u t, φ (.update (.removeSnapshot u t)))
    (htokens : ∀ u, φ (.query (.activeTokens u))) (hdel : ∀ l, φ (.redis (.del l)))
    (enabled : Bool) (backend : SessionBackend) (event : MembershipEvent) :
    ((platform enabled backend).notify event).All φ := by
  refine Prog.All.mapErr ?_
  unfold SessionCoordinator.handleMembershipEvent
  split
  · exact Prog.all_pure _
  · refine Prog.All.mapErr ?_
    have hsnap : ∀ t u role, (SessionCoordinator.snapshotOf t u role).All φ :=
      fun t u role => Prog.All.bind ⟨hclock, fun _ => trivial⟩ fun _ => Prog.all_pure _
    have hedit : ∀ u : Update, φ (.update u) → ((execute u).mapErr SessionError.ofSqlx).All φ :=
      fun u hu => Prog.All.mapErr ⟨hu, fun _ => trivial⟩
    cases backend with
    | database =>
      cases event with
      | added t u role => exact (hsnap _ _ _).bind fun _ => hedit _ (hadd _ _)
      | updated t u role => exact (hsnap _ _ _).bind fun _ => hedit _ (hupdate _ _)
      | removed t u => exact hedit _ (hremove _ _)
    | cached connected =>
      have hstale := fun u =>
        CachedSessionStore.all_invalidateActiveTokens connected u (htokens u) hdel
      cases event with
      | added t u role =>
        exact (hsnap _ _ _).bind fun _ => (hedit _ (hadd _ _)).bind fun _ => hstale _
      | updated t u role =>
        exact (hsnap _ _ _).bind fun _ => (hedit _ (hupdate _ _)).bind fun _ => hstale _
      | removed t u => exact (hedit _ (hremove _ _)).bind fun _ => hstale _

/-- The report of an event adds no session and no cache entry. -/
theorem quiet_notify (enabled : Bool) (backend : SessionBackend) (event : MembershipEvent) :
    ((platform enabled backend).notify event).All Req.Quiet :=
  all_notify_of trivial (fun _ _ => trivial) (fun _ _ => trivial) (fun _ _ => trivial)
    (fun _ => trivial) (fun _ => trivial) enabled backend event

/-- The report of an event only touches sessions. -/
theorem all_notify (enabled : Bool) (backend : SessionBackend) (event : MembershipEvent) :
    ((platform enabled backend).notify event).All Req.OnSessions :=
  (quiet_notify enabled backend event).mono fun _ => Req.Quiet.onSessions

/-! ## Runs -/

variable [Unicode]

/-- The labels of the steps of a run. -/
inductive TenantLabel where
  /-- A call with its outcome. -/
  | call (ctx : ExecutionContext) (call : TenantCall) (r : Except TenantError Unit)
  /-- Anything else. -/
  | other

/-- The steps of a run: a call, or something that leaves the tenant tables as they are. -/
inductive TenantStep (service : TenantService) (F : Req → Prop) : World → TenantLabel → World → Prop
  /-- A call. -/
  | call {ctx : ExecutionContext} {call : TenantCall} {r : Except TenantError Unit} {w w' : World}
      (h : (call.run service ctx).Exec (Env F) w r w') :
      TenantStep service F w (.call ctx call r) w'
  /-- The clock moves, and the other services act. -/
  | other {w w' : World} (h : w.db.SameTenancy w'.db) : TenantStep service F w .other w'

omit [Unicode] in
/-- A database without tenants; users and permissions may exist. -/
structure Db.NoTenants (db : Db) : Prop where
  /-- No tenant. -/
  tenants : db.tenants = []
  /-- No membership. -/
  memberships : db.memberships = []
  /-- No role. -/
  tenantRoles : db.tenantRoles = []
  /-- No permission of a role. -/
  rolePermissions : db.rolePermissions = []
  /-- No invite. -/
  invites : db.invites = []

omit [Unicode] in
/-- The start of a run: no tenants, and the permissions of the migrations. -/
def MigratedInit (w : World) : Prop := w.db.NoTenants ∧ w.db.Migrated

/-- **What a call does to the tenant tables**: nothing, or an effect of `TenantEffect`; a
successful call has its complete effect. -/
theorem TenantCall.effect_of_exec {enabled : Bool} {backend : SessionBackend} {F : Req → Prop}
    {ctx : ExecutionContext} {call : TenantCall} {w w' : World} {r : Except TenantError Unit}
    (h : (call.run (platform enabled backend) ctx).Exec (Env F) w r w') :
    (w.db.SameTenancy w'.db ∧ ∃ e, r = .error e) ∨
      ∃ actor complete event db, ctx.actorId = some actor.inner ∧
        TenantEffect w.now actor w.db call complete event db ∧ db.SameTenancy w'.db ∧
        (r = .ok () → complete = true) := by
  cases TenantCall.outcome h with
  | nothing => exact .inl ⟨.refl _, _, rfl⟩
  | failed hctx heff => exact .inr ⟨_, _, _, _, hctx, heff, .refl _, fun h => by cases h⟩
  | silent hctx heff => exact .inr ⟨_, _, _, _, hctx, heff, .refl _, fun _ => rfl⟩
  | notified hctx heff hrun hr =>
    obtain ⟨_, _, _, rfl⟩ := sessionsMoved_of_exec (all_notify enabled backend _) hrun
    exact .inr ⟨_, _, _, _, hctx, heff, ⟨_, _, _, _, _, rfl⟩, fun _ => rfl⟩

/-! ## A small platform -/

namespace Scenario

/-- Calls by the user with a given number. -/
def ctx (n : Nat) : ExecutionContext := ⟨some (BitVec.ofNat 128 n)⟩

/-- The world after calls of the given users, run without failure. -/
def after (service : TenantService) : List (Nat × TenantCall) → World
  | [] => world
  | c :: earlier => ((c.2.run service (ctx c.1)).eval World.answer (after service earlier)).2

/-- The history of such calls. -/
def history (service : TenantService) : List (Nat × TenantCall) → List (World × TenantLabel)
  | [] => []
  | c :: earlier =>
    (after service earlier, .call (ctx c.1) c.2
      ((c.2.run service (ctx c.1)).eval World.answer (after service earlier)).1) ::
      history service earlier

/-- Such calls are a run. -/
theorem run_history_world (service : TenantService) (F : Req → Prop)
    (calls : List (Nat × TenantCall)) :
    Run (· = world) (TenantStep service F) (history service calls) (after service calls) := by
  induction calls with
  | nil => exact .start rfl
  | cons c earlier ih => exact ih.snoc (.call (Prog.exec_eval (env_answer F)))

/-- Such calls are a run. -/
theorem run_history (service : TenantService) (F : Req → Prop) (calls : List (Nat × TenantCall)) :
    Run (·.db.NoTenants) (TenantStep service F) (history service calls) (after service calls) :=
  (run_history_world service F calls).mono_init <| by
    rintro w rfl
    exact ⟨rfl, rfl, rfl, rfl, rfl⟩

/-- Such calls are a run. -/
theorem run_after (service : TenantService) (F : Req → Prop) (calls : List (Nat × TenantCall)) :
    ∃ tr, Run (·.db.NoTenants) (TenantStep service F) tr (after service calls) :=
  ⟨_, run_history service F calls⟩

omit [Unicode]

/-- The world after such calls of ASCII texts, on the platform over the database. -/
def played (calls : List (Nat × TenantCall)) : World :=
  letI := Unicode.ascii
  after (platform true .database) calls

/-- The history of such calls. -/
def playedHistory (calls : List (Nat × TenantCall)) : List (World × TenantLabel) :=
  letI := Unicode.ascii
  history (platform true .database) calls

/-- Such calls are a run. -/
theorem run_played (calls : List (Nat × TenantCall)) :
    Run (·.db.NoTenants) (@TenantStep Unicode.ascii (platform true .database) noFault)
      (playedHistory calls) (played calls) :=
  @run_history Unicode.ascii (platform true .database) noFault calls

/-- The last of such calls is a step. -/
theorem step_played (c : Nat × TenantCall) (earlier : List (Nat × TenantCall)) :
    letI := Unicode.ascii
    TenantStep (platform true .database) noFault (played earlier)
      (.call (ctx c.1) c.2
        ((c.2.run (platform true .database) (ctx c.1)).eval World.answer (played earlier)).1)
      (played (c :: earlier)) :=
  letI := Unicode.ascii
  .call (Prog.exec_eval (env_answer noFault))

/-- Such calls are a run over the migrated permissions. -/
theorem run_migrated (calls : List (Nat × TenantCall)) :
    Run MigratedInit (@TenantStep Unicode.ascii (platform true .database) noFault)
      (playedHistory calls) (played calls) :=
  (@run_history_world Unicode.ascii (platform true .database) noFault calls).mono_init <| by
    rintro w rfl
    exact ⟨⟨rfl, rfl, rfl, rfl, rfl⟩, by decide +kernel, by decide +kernel⟩

end Scenario

end Klynt
