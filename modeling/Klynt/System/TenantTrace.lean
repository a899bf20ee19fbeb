import Klynt.Lib.History
import Klynt.System.AccessValidation
import Klynt.System.TenantRun

set_option relaxedAutoImplicit false
set_option autoImplicit false

/-!
# What a call of the tenant service has seen when it writes

Among other calls, a call knows the database only through its own reads.  Every use case reads
the tenant, the permission of the actor and the target in separate statements, and writes in a
later one.  `TenantMay` says, for each write a call can issue, which of its reads it rests on.

## Main definitions

* `queriedEvent`, `drawn` — answers to queries, and the UUIDs a call has drawn.
* `Authorised`, `Checked` — the reads that showed a permission of the actor.
* `TenantMay` — what a call may request, given what it has seen.

## Main results

* `traced_guarded`, `traced_acceptable` — the two prefixes of the use cases.
* `TenantCall.traced` — every call issues only what it may, whatever the answers.
-/

namespace Klynt

/-! ## Answers -/

/-- The answer to a query that did not fail. -/
def queriedEvent (q : Query) (r : q.Res) : Prog.Event Req Ans :=
  ⟨.query q, (.ok r : Except SqlxError q.Res)⟩

/-- The time that was read. -/
def clockEvent (t : Time) : Prog.Event Req Ans := ⟨.clock, t⟩

/-- The UUID of an event that drew one. -/
def drawnUuid : Prog.Event Req Ans → Option Uuid
  | ⟨.uuid, u⟩ => some u
  | _ => none

/-- The UUIDs that were drawn, newest first. -/
def drawn (h : List (Prog.Event Req Ans)) : List Uuid := h.filterMap drawnUuid

/-- The event that drew a UUID. -/
theorem drawnUuid_eq_some {e : Prog.Event Req Ans} {u : Uuid} :
    drawnUuid e = some u ↔ e = uuidEvent u := by
  obtain ⟨q, a⟩ := e
  constructor
  · intro h
    cases q with
    | uuid => exact congrArg uuidEvent (Option.some.inj h)
    | _ => cases h
  · intro h
    obtain ⟨rfl, h⟩ := Sigma.mk.inj h
    exact congrArg some (eq_of_heq h)

/-- A UUID that was drawn. -/
theorem mem_drawn {h : List (Prog.Event Req Ans)} {u : Uuid} :
    u ∈ drawn h ↔ uuidEvent u ∈ h := by
  simp only [drawn, List.mem_filterMap, drawnUuid_eq_some]
  exact ⟨fun ⟨_, he, heq⟩ => heq ▸ he, fun hu => ⟨_, hu, rfl⟩⟩

variable [Unicode]

/-- The reads of a successful `require_permission_with_context`. -/
def Authorised (h : List (Prog.Event Req Ans)) (t : TenantId) (actor : UserId) (name : String) :
    Prop :=
  ∃ (m : MembershipRow) (role : TenantRole) (r : TenantRoleAggregate) (p : PermissionRow)
    (c : PermissionCategory), queriedEvent (.membership t actor) (some m) ∈ h ∧
      TenantRole.parse m.role = .ok role ∧ queriedEvent (.roleByName t role.asStr) (some r) ∈ h ∧
      queriedEvent (.permissionByName name) (some p) ∈ h ∧
      PermissionCategory.fromStr p.category = .ok c ∧ p.id ∈ r.permissionIds

/-- The reads of the guarded prefix: the tenant was found by its slug, and the actor had a
permission in it. -/
structure Checked (ctx : ExecutionContext) (h : List (Prog.Event Req Ans)) (slug name : String)
    (actor : UserId) (row : TenantRow) : Prop where
  /-- Who calls. -/
  caller : ctx.actorId = some actor.inner
  /-- The tenant was found. -/
  found : ∃ s, TenantSlug.parse slug = .ok s ∧
    queriedEvent (.tenantBySlug s.text) (some row) ∈ h
  /-- The actor had the permission. -/
  authorised : Authorised h row.id actor name

/-- The reads of the prefix of an acceptance. -/
structure InviteRead (ctx : ExecutionContext) (h : List (Prog.Event Req Ans)) (token : String)
    (actor : UserId) (inv : InviteRow) (roleName : String) (role : TenantRole) : Prop where
  /-- Who calls. -/
  caller : ctx.actorId = some actor.inner
  /-- The invite was found with the name of its role. -/
  found : queriedEvent (.inviteByToken token) (some (inv, roleName)) ∈ h
  /-- It was pending. -/
  pending : inv.acceptedAt = none
  /-- It had not expired when the clock was read. -/
  inTime : ∃ t, clockEvent t ∈ h ∧ t ≤ inv.expiresAt
  /-- The actor was read, and the invite is addressed to them. -/
  addressed : ∃ row user, queriedEvent (.userById actor) (some row) ∈ h ∧ row.intoUser = .ok user ∧
    user.email = Email.new inv.email
  /-- The role has a canonical name. -/
  role : TenantRole.parse roleName = .ok role

/-- A membership that was inserted. -/
def insertedEvent (m m' : MembershipRow) : Prog.Event Req Ans :=
  ⟨.update (.insertMembership m), (.ok m' : Except SqlxError MembershipRow)⟩

/-- Nothing was written. -/
def NoWrite (h : List (Prog.Event Req Ans)) : Prop := ∀ e ∈ h, ¬ e.1.WritesDb

/-- What a call may request, given what it has seen. -/
inductive TenantMay (ctx : ExecutionContext) (h : List (Prog.Event Req Ans)) :
    TenantCall → Req → Prop
  /-- A request that leaves the tables of the tenant service alone. -/
  | aside {call : TenantCall} {q : Req} (hq : q.OnSessions) : TenantMay ctx h call q
  /-- A tenant of the actor, under UUIDs the call has drawn. -/
  | created {slug name : String} {tenant : Tenant} {ids : TenantRole → RoleId} {actor : UserId}
      (hctx : ctx.actorId = some actor.inner) (hslug : TenantSlug.parse slug = .ok tenant.slug)
      (hnew : Tenant.create tenant.id tenant.slug name actor tenant.createdAt = .ok tenant)
      (hfirst : NoWrite h)
      (hids : drawn h = [(ids .guest).inner, (ids .member).inner, (ids .admin).inner,
        (ids .owner).inner, tenant.id.inner]) :
      TenantMay ctx h (.createTenant slug name) (.transaction (.createTenant tenant ids))
  /-- The row of the tenant that was found, with another name. -/
  | renamed {slug name : String} {actor : UserId} {row : TenantRow} {tenant : Tenant} {t : Time}
      (hcheck : Checked ctx h slug Permission.manageSettings actor row) (hfirst : NoWrite h)
      (hmap : mapTenantRow row = .ok tenant) :
      TenantMay ctx h (.updateTenant slug name)
        (.update (.tenant (.ofTenant { tenant with name, updatedAt := t })))
  /-- The tenant that was found. -/
  | deleted {slug : String} {actor : UserId} {row : TenantRow}
      (hcheck : Checked ctx h slug Permission.delete actor row) (hfirst : NoWrite h) :
      TenantMay ctx h (.deleteTenant slug) (.update (.dropTenant row.id))
  /-- A user who is not the owner that was read, with the role that was found by name. -/
  | memberAdded {slug email : String} {role : TenantRole} {actor u : UserId} {row : TenantRow}
      {t : Time} {id : RoleId} (hcheck : Checked ctx h slug Permission.manageMembers actor row)
      (hfirst : NoWrite h) (hu : u ≠ row.ownerId)
      (hrole : queriedEvent (.roleIdByName row.id role.asStr) (some id) ∈ h) :
      TenantMay ctx h (.addMember slug email role)
        (.update (.insertMembership (newMembershipRow row.id u role t id)))
  /-- A member who is not the owner that was read, with the role that was found by name. -/
  | memberUpdated {slug email : String} {role : TenantRole} {actor u : UserId} {row : TenantRow}
      {id : RoleId} (hcheck : Checked ctx h slug Permission.manageMembers actor row)
      (hfirst : NoWrite h) (hu : u ≠ row.ownerId)
      (hrole : queriedEvent (.roleIdByName row.id role.asStr) (some id) ∈ h) :
      TenantMay ctx h (.updateMemberRole slug email role)
        (.update (.membershipRole role row.id u id))
  /-- A member who is not the owner that was read. -/
  | memberRemoved {slug email : String} {actor u : UserId} {row : TenantRow}
      (hcheck : Checked ctx h slug Permission.manageMembers actor row) (hfirst : NoWrite h)
      (hu : u ≠ row.ownerId) :
      TenantMay ctx h (.removeMember slug email) (.update (.deleteMembership row.id u))
  /-- A pending invite to a role that was found by name, under a UUID the call has drawn. -/
  | inviteCreated {slug email : String} {role : TenantRole} {actor : UserId} {row : TenantRow}
      {r : TenantRoleAggregate} {inv : InviteRow}
      (hcheck : Checked ctx h slug Permission.manageMembers actor row) (hfirst : NoWrite h)
      (hrole : queriedEvent (.roleByName row.id role.asStr) (some r) ∈ h)
      (hid : uuidEvent inv.id ∈ h) (htenant : inv.tenantId = row.id)
      (hroleId : inv.tenantRoleId = r.id) (hby : inv.invitedBy = actor)
      (hpending : inv.acceptedAt = none) :
      TenantMay ctx h (.createInvite slug email role) (.update (.insertInvite inv))
  /-- The actor joins with the role of an invite that was pending. -/
  | inviteUsed {token roleName : String} {actor : UserId} {inv : InviteRow} {role : TenantRole}
      {t : Time} (hinv : InviteRead ctx h token actor inv roleName role) (hfirst : NoWrite h) :
      TenantMay ctx h (.acceptInvite token)
        (.update (.insertMembership (newMembershipRow inv.tenantId actor role t inv.tenantRoleId)))
  /-- The invite the actor has joined with. -/
  | inviteMarked {token roleName : String} {actor : UserId} {inv : InviteRow} {role : TenantRole}
      {t : Time} {m : MembershipRow} (hinv : InviteRead ctx h token actor inv roleName role)
      (hjoined : insertedEvent (newMembershipRow inv.tenantId actor role t inv.tenantRoleId) m ∈ h) :
      TenantMay ctx h (.acceptInvite token) (.update (.acceptInvite inv.id))
  /-- A custom role under a UUID the call has drawn. -/
  | roleCreated {slug name description : String} {permissionIds : List PermissionId}
      {actor : UserId} {row : TenantRow} {role : TenantRoleAggregate}
      (hcheck : Checked ctx h slug Permission.manageRoles actor row) (hfirst : NoWrite h)
      (hid : uuidEvent role.id.inner ∈ h) (htenant : role.tenantId = row.id)
      (hcustom : role.isSystem = false) (hperms : role.permissionIds = permissionIds) :
      TenantMay ctx h (.createRole slug name description permissionIds)
        (.transaction (.createRole role))
  /-- A role of the tenant that was found. -/
  | roleUpdated {slug : String} {roleId : RoleId} {permissionIds : List PermissionId}
      {actor : UserId} {row : TenantRow}
      (hcheck : Checked ctx h slug Permission.manageRoles actor row) (hfirst : NoWrite h) :
      TenantMay ctx h (.updateRole slug roleId permissionIds)
        (.transaction (.updateRolePermissions row.id roleId permissionIds))
  /-- A role of the tenant that was found. -/
  | roleDeleted {slug : String} {roleId : RoleId} {actor : UserId} {row : TenantRow}
      (hcheck : Checked ctx h slug Permission.manageRoles actor row) (hfirst : NoWrite h) :
      TenantMay ctx h (.deleteRole slug roleId) (.update (.dropRole row.id roleId))

/-! ## Reads -/

section Reads

variable {J : List (Prog.Event Req Ans) → Req → Prop} {h : List (Prog.Event Req Ans)}
  {ctx : ExecutionContext}

/-- Having seen `h`, the program writes nothing, and what it returns satisfies `S` together with
what it has seen. -/
abbrev LooksUp {ε α : Type} (J : List (Prog.Event Req Ans) → Req → Prop) (p : Action ε α)
    (h : List (Prog.Event Req Ans)) (S : α → List (Prog.Event Req Ans) → Prop) : Prop :=
  p.Learns J (fun q => ¬ q.WritesDb) h S

/-- `J` allows every request that writes nothing. -/
def AllowsReads (J : List (Prog.Event Req Ans) → Req → Prop) : Prop :=
  ∀ h q, ¬ q.WritesDb → J h q

variable (hJ : AllowsReads J)
include hJ

omit [Unicode]

/-- A request that writes nothing. -/
lemma looksUp_ask {ε α : Type} {q : Req} (hq : ¬ q.WritesDb) {g : Ans q → Except ε α} :
    LooksUp J (.ask q fun a => .done (g a)) h fun b h' => ∃ a, g a = .ok b ∧ h' = ⟨q, a⟩ :: h :=
  Prog.learns_ask (hJ h q hq) hq

/-- A query. -/
lemma looksUp_select (q : Query) :
    LooksUp J (select q) h fun r h' => h' = queriedEvent q r :: h := by
  refine (looksUp_ask (q := .query q) hJ id).mono ?_
  rintro r _ - ⟨_, rfl, rfl⟩
  rfl

/-- The clock. -/
lemma looksUp_now {ε : Type} : LooksUp J (now : Action ε Time) h fun t h' =>
    h' = clockEvent t :: h := by
  refine (looksUp_ask (q := .clock) hJ id).mono ?_
  rintro t _ - ⟨_, heq, rfl⟩
  rw [Except.ok.inj heq]
  rfl

/-- A UUID. -/
lemma looksUp_newUuid {ε : Type} : LooksUp J (newUuid : Action ε Uuid) h fun u h' =>
    h' = uuidEvent u :: h := by
  refine (looksUp_ask (q := .uuid) hJ id).mono ?_
  rintro u _ - ⟨_, heq, rfl⟩
  rw [Except.ok.inj heq]
  rfl

/-- A secure token. -/
lemma looksUp_generateSecureToken {ε : Type} :
    LooksUp J (generateSecureToken : Action ε String) h fun _ _ => True :=
  (looksUp_ask (q := .secureToken) hJ id).mono fun _ _ _ _ => trivial

omit hJ in
/-- The actor. -/
lemma looksUp_requireActor : LooksUp J (requireActor ctx) h fun actor h' =>
    h' = h ∧ ctx.actorId = some actor.inner := by
  refine (Prog.learns_ofOption _ _).mono ?_
  rintro actor _ - ⟨rfl, hactor⟩
  obtain ⟨_, hid, rfl⟩ := Option.map_eq_some_iff.mp hactor
  exact ⟨rfl, hid⟩

/-- A role found by name. -/
lemma looksUp_findRoleByName {t : TenantId} {name : String} :
    LooksUp J (PgRoleRepository.findRoleByName t name) h fun r h' =>
      h' = queriedEvent (.roleByName t name) r :: h :=
  (looksUp_select hJ _).mapErr

/-- A role found by id. -/
lemma looksUp_findRoleById {t : TenantId} {id : RoleId} :
    LooksUp J (PgRoleRepository.findRoleById t id) h fun _ _ => True :=
  (looksUp_select hJ _).mapErr.mono fun _ _ _ _ => trivial

/-- The id of a role found by name. -/
lemma looksUp_findRoleIdByName {t : TenantId} {name : String} :
    LooksUp J (PgMembershipRepository.findRoleIdByName t name) h fun id h' =>
      queriedEvent (.roleIdByName t name) (some id) ∈ h' := by
  refine (looksUp_select hJ _).mapErr.bind fun found h' _ hread => ?_
  subst hread
  refine (Prog.learns_ofOption _ _).mono ?_
  rintro id _ - ⟨rfl, rfl⟩
  exact List.mem_cons_self

variable [Unicode]

/-- A membership. -/
lemma looksUp_find {t : TenantId} {u : UserId} :
    LooksUp J (PgMembershipRepository.find t u) h fun found h' => ∃ o,
      h' = queriedEvent (.membership t u) o :: h ∧ mapOption mapMembershipRow o = .ok found := by
  refine (looksUp_select hJ _).mapErr.bind fun o h' _ hread => ?_
  subst hread
  refine (Prog.learns_done _).mono ?_
  rintro found _ - ⟨rfl, hmap⟩
  exact ⟨o, rfl, hmap⟩

/-- A permission. -/
lemma looksUp_findPermissionByName {name : String} :
    LooksUp J (PgPermissionRepository.findPermissionByName name) h fun found h' => ∃ o,
      h' = queriedEvent (.permissionByName name) o :: h ∧
        mapOption mapPermissionRow o = .ok found := by
  refine (looksUp_select hJ _).mapErr.bind fun o h' _ hread => ?_
  subst hread
  refine (Prog.learns_done _).mono ?_
  rintro found _ - ⟨rfl, hmap⟩
  exact ⟨o, rfl, hmap⟩

/-- A tenant. -/
lemma looksUp_fetchTenant {slug : String} :
    LooksUp J (fetchTenant slug) h fun tenant h' => ∃ s row, TenantSlug.parse slug = .ok s ∧
      queriedEvent (.tenantBySlug s.text) (some row) ∈ h' ∧ mapTenantRow row = .ok tenant := by
  refine (Prog.learns_done _).bind ?_
  rintro s seen - ⟨rfl, hs⟩
  have hfind : LooksUp J (PgTenantRepository.findBySlug s) seen fun found h' => ∃ o,
      h' = queriedEvent (.tenantBySlug s.text) o :: seen ∧ mapOption mapTenantRow o = .ok found := by
    refine (looksUp_select hJ _).mapErr.bind fun o h' _ hread => ?_
    subst hread
    refine (Prog.learns_done _).mono ?_
    rintro found _ - ⟨rfl, hmap⟩
    exact ⟨o, rfl, hmap⟩
  refine hfind.mapErr.bind ?_
  rintro found _ - ⟨o, rfl, hmap⟩
  refine (Prog.learns_ofOption _ _).mono ?_
  rintro tenant _ - ⟨rfl, rfl⟩
  obtain ⟨row, rfl, hrow⟩ := mapOption_eq_some.mp hmap
  exact ⟨s, row, Except.mapError_eq_ok.mp hs, List.mem_cons_self, hrow⟩

/-- **A required permission** was shown by three reads. -/
lemma looksUp_requirePermission {t : TenantId} {actor : UserId} {name : String} {e : TenantError} :
    LooksUp J (requirePermission t actor name e) h fun _ h' => Authorised h' t actor name := by
  refine Prog.Learns.mapErr ?_
  refine (looksUp_find hJ).bind ?_
  rintro found h₁ - ⟨o, hread, hfound⟩
  refine (Prog.learns_ofOption _ _).bind ?_
  rintro m _ - ⟨rfl, rfl⟩
  obtain ⟨row, rfl, hrow⟩ := mapOption_eq_some.mp hfound
  obtain ⟨role, hrole, rfl⟩ := mapMembershipRow_eq_ok.mp hrow
  refine (looksUp_findRoleByName hJ).bind ?_
  rintro found h₂ hg₂ hread₂
  refine (Prog.learns_ofOption _ _).bind ?_
  rintro r _ - ⟨rfl, rfl⟩
  refine (looksUp_findPermissionByName hJ).bind ?_
  rintro found h₃ hg₃ ⟨o, hread₃, hfound⟩
  refine (Prog.learns_ofOption _ _).bind ?_
  rintro p _ - ⟨rfl, rfl⟩
  obtain ⟨prow, rfl, hprow⟩ := mapOption_eq_some.mp hfound
  obtain ⟨c, hc, rfl⟩ := mapPermissionRow_eq_ok.mp hprow
  refine (Prog.learns_rejectIf _ _).mono ?_
  rintro _ _ - ⟨rfl, hgranted⟩
  refine ⟨row, role, r, prow, c, (hg₂.trans hg₃).mem ?_, hrole, hg₃.mem ?_, ?_, hc, ?_⟩
  · rw [hread]
    exact List.mem_cons_self
  · rw [hread₂]
    exact List.mem_cons_self
  · rw [hread₃]
    exact List.mem_cons_self
  · simpa [AuthorizationService.roleHasPermission] using hgranted

/-- A target user. -/
lemma looksUp_findTargetUser {email : String} :
    LooksUp J (findTargetUser email) h fun _ _ => True := by
  refine (Prog.learns_done _).bind fun email _ _ _ => ?_
  have hfind : ∀ h, LooksUp J (PgUserRepository.findByEmail email) h fun _ _ => True :=
    fun h => (looksUp_select hJ _).mapErr.bind fun _ _ _ _ =>
      (Prog.learns_done _).mono fun _ _ _ _ => trivial
  refine (hfind _).mapErr.bind fun found _ _ _ => ?_
  exact (Prog.learns_ofOption _ _).mono fun _ _ _ _ => trivial

end Reads

/-! ## Prefixes -/

section Prefixes

variable {J : List (Prog.Event Req Ans) → Req → Prop} {ctx : ExecutionContext} {α : Type}

/-- What a request learned stays checked. -/
lemma Authorised.grown {φ : Req → Prop} {h h' : List (Prog.Event Req Ans)} {t : TenantId}
    {actor : UserId} {name : String} (ha : Authorised h t actor name) (hg : Prog.Grown φ h h') :
    Authorised h' t actor name := by
  obtain ⟨m, role, r, p, c, hm, hrole, hr, hp, hrest⟩ := ha
  exact ⟨m, role, r, p, c, hg.mem hm, hrole, hg.mem hr, hg.mem hp, hrest⟩

/-- The checks of a call stay made. -/
lemma Checked.grown {φ : Req → Prop} {h h' : List (Prog.Event Req Ans)} {slug name : String}
    {actor : UserId} {row : TenantRow} (hc : Checked ctx h slug name actor row)
    (hg : Prog.Grown φ h h') : Checked ctx h' slug name actor row where
  caller := hc.caller
  found := by
    obtain ⟨s, hs, hread⟩ := hc.found
    exact ⟨s, hs, hg.mem hread⟩
  authorised := hc.authorised.grown hg

/-- What was read of an invite stays read. -/
lemma InviteRead.grown {φ : Req → Prop} {h h' : List (Prog.Event Req Ans)}
    {token roleName : String} {actor : UserId} {inv : InviteRow} {role : TenantRole}
    (hi : InviteRead ctx h token actor inv roleName role) (hg : Prog.Grown φ h h') :
    InviteRead ctx h' token actor inv roleName role where
  caller := hi.caller
  found := hg.mem hi.found
  pending := hi.pending
  inTime := by
    obtain ⟨t, ht, hle⟩ := hi.inTime
    exact ⟨t, hg.mem ht, hle⟩
  addressed := by
    obtain ⟨row, user, hread, hrest⟩ := hi.addressed
    exact ⟨row, user, hg.mem hread, hrest⟩
  role := hi.role

omit [Unicode] in
/-- Reading on writes nothing. -/
lemma NoWrite.grown {h h' : List (Prog.Event Req Ans)} (hn : NoWrite h)
    (hg : Prog.Grown (fun q => ¬ q.WritesDb) h h') : NoWrite h' := by
  obtain ⟨new, rfl, hnew⟩ := hg
  exact fun e he => (List.mem_append.mp he).elim (hnew e) (hn e)

variable (hJ : AllowsReads J)
include hJ

/-- **The guarded prefix.** The rest runs as the actor, on a tenant whose row was read, after the
permission was shown, and nothing was written so far. -/
lemma traced_guarded {slug name : String} {e : TenantError}
    {f : UserId → Tenant → Action TenantError α}
    (hf : ∀ actor row tenant h, Checked ctx h slug name actor row → NoWrite h →
      mapTenantRow row = .ok tenant → (f actor tenant).Traced J (fun _ _ => True) h) :
    (do
      let actor ← requireActor ctx
      let tenant ← fetchTenant slug
      requirePermission tenant.id actor name e
      f actor tenant : Action TenantError α).Traced J (fun _ _ => True) [] := by
  refine looksUp_requireActor.bind_traced ?_
  rintro actor _ - ⟨rfl, hactor⟩
  refine (looksUp_fetchTenant hJ).bind_traced ?_
  rintro tenant h₁ hg₁ ⟨s, row, hs, hread, hmap⟩
  refine (looksUp_requirePermission hJ).bind_traced ?_
  rintro _ h₂ hg₂ hauthorised
  rw [mapTenantRow_id hmap] at hauthorised
  exact hf actor row tenant h₂ ⟨hactor, ⟨s, hs, hg₂.mem hread⟩, hauthorised⟩
    (hg₁.trans hg₂).all hmap

/-- **The prefix of an acceptance.** The rest runs as the actor, who was read after the invite,
which was pending and in time. -/
lemma traced_acceptable {token : String}
    {f : UserId → TenantInvite → TenantRole → Time → Action TenantError α}
    (hf : ∀ actor inv roleName role t h, InviteRead ctx h token actor inv roleName role →
      NoWrite h →
      (f actor (mapInviteRow (inv, roleName)) role t).Traced J (fun _ _ => True) h) :
    (do
      let actorId ← requireActor ctx
      let found ← (PgTenantInviteRepository.findByToken token).mapErr fun e => .internal e.text
      let invite ← .ofOption (.domain (.notFound "invite")) found
      let t ← now
      .rejectIf (invite.acceptedAt.isSome ∨ invite.expiresAt < t)
        (.domain (.validation "invite expired or already accepted"))
      let found ← (PgUserRepository.findById actorId).mapErr fun e => .internal e.text
      let actor ← .ofOption .authenticationRequired found
      .rejectIf (actor.email ≠ invite.email) (.domain (.notPermitted "invite email mismatch"))
      let role ← .done ((TenantRole.parse invite.roleName).mapError .domain)
      let joinedAt ← now
      f actorId invite role joinedAt : Action TenantError α).Traced J (fun _ _ => True) [] := by
  refine looksUp_requireActor.bind_traced ?_
  rintro actor _ - ⟨rfl, hactor⟩
  have hinvite : LooksUp J (PgTenantInviteRepository.findByToken token) [] fun found h' => ∃ o,
      h' = [queriedEvent (.inviteByToken token) o] ∧ found = o.map mapInviteRow := by
    refine (looksUp_select hJ _).mapErr.bind fun o h' _ hread => ?_
    subst hread
    refine (Prog.learns_pure _).mono ?_
    rintro found _ - ⟨rfl, rfl⟩
    exact ⟨o, rfl, rfl⟩
  refine hinvite.mapErr.bind_traced ?_
  rintro found h₁ hg₁ ⟨o, hread₁, rfl⟩
  refine (Prog.reads_ofOption _ _).bind_guarded (Prog.all_ofOption _ _) fun invite hsome => ?_
  obtain ⟨⟨inv, roleName⟩, rfl, rfl⟩ := Option.map_eq_some_iff.mp hsome
  refine (looksUp_now hJ).bind_traced ?_
  rintro t h₂ hg₂ hread₂
  refine (Prog.reads_rejectIf _ _).bind_guarded (Prog.all_rejectIf _ _) fun _ hpending => ?_
  obtain ⟨hunused, htime⟩ := not_or.mp hpending
  have huser : LooksUp J (PgUserRepository.findById actor) h₂ fun found h' => ∃ o,
      h' = queriedEvent (.userById actor) o :: h₂ ∧
        mapOption UserRow.intoUser o = .ok found := by
    refine (looksUp_select hJ _).mapErr.bind fun o h' _ hread => ?_
    subst hread
    refine (Prog.learns_done _).mono ?_
    rintro found _ - ⟨rfl, hmap⟩
    exact ⟨o, rfl, Except.mapError_eq_ok.mp hmap⟩
  refine huser.mapErr.bind_traced ?_
  rintro found h₃ hg₃ ⟨o, hread₃, hmap⟩
  refine (Prog.reads_ofOption _ _).bind_guarded (Prog.all_ofOption _ _) fun user hsome => ?_
  subst hsome
  obtain ⟨row, rfl, hrow⟩ := mapOption_eq_some.mp hmap
  refine (Prog.reads_rejectIf _ _).bind_guarded (Prog.all_rejectIf _ _) fun _ hemail => ?_
  refine (Prog.reads_done _).bind_guarded (Prog.all_done _) fun role hrole => ?_
  refine (looksUp_now hJ).bind_traced ?_
  rintro joinedAt h₄ hg₄ -
  have hinv : InviteRead ctx _ token actor inv roleName role :=
    { caller := hactor
      found := (hg₂.trans (hg₃.trans hg₄)).mem (hread₁ ▸ List.mem_cons_self)
      pending := Option.not_isSome_iff_eq_none.mp hunused
      inTime := ⟨t, (hg₃.trans hg₄).mem (hread₂ ▸ List.mem_cons_self), not_lt.mp htime⟩
      addressed := ⟨row, user, hg₄.mem (hread₃ ▸ List.mem_cons_self), hrow, not_not.mp hemail⟩
      role := Except.mapError_eq_ok.mp hrole }
  exact hf actor inv roleName role joinedAt h₄ hinv
    (hg₁.trans (hg₂.trans (hg₃.trans hg₄))).all

end Prefixes

/-! ## Calls -/

section Calls

variable {ctx : ExecutionContext} {call : TenantCall} {h : List (Prog.Event Req Ans)}

/-- A call may always read. -/
lemma TenantMay.reads : AllowsReads fun h q => TenantMay ctx h call q := by
  intro h q hq
  cases q with
  | update u => exact (hq trivial).elim
  | transaction t => exact (hq trivial).elim
  | _ => exact .aside trivial

/-- What only touches sessions is always allowed. -/
lemma traced_aside {ε α : Type} {p : Action ε α} (hp : p.All Req.OnSessions) :
    p.Traced (fun h q => TenantMay ctx h call q) (fun _ _ => True) h :=
  (hp.mono fun _ hq _ => TenantMay.aside hq).guarded

/-- A statement that is allowed, and the rest. -/
lemma traced_statement {α : Type} {u : Update} {g : SqlxError → DomainError}
    {f : u.Res → Action DomainError α} (hu : TenantMay ctx h call (.update u))
    (hf : ∀ r, (f r).All Req.OnSessions) :
    ((execute u).mapErr g >>= f).Traced (fun h q => TenantMay ctx h call q)
      (fun _ _ => True) h := by
  refine Prog.wp.bind_guarded (Q := fun _ _ => True) (Prog.wp_mapErr.mpr ?_) fun r _ _ =>
    traced_aside (hf r)
  exact Prog.wp_ask.mpr ⟨hu, fun _ _ _ => Prog.wp_done.mpr trivial⟩

/-- A transaction that is allowed. -/
lemma traced_transaction {t : Transaction} (ht : TenantMay ctx h call (.transaction t)) :
    (transact t).Traced (fun h q => TenantMay ctx h call q) (fun _ _ => True) h :=
  Prog.wp_ask.mpr ⟨ht, fun _ _ _ => Prog.wp_done.mpr trivial⟩

/-- A part whose requests are known, and a rest that only touches sessions. -/
lemma traced_then {ε α β : Type} {p : Action ε α} {f : α → Action ε β}
    (hp : p.Traced (fun h q => TenantMay ctx h call q) (fun _ _ => True) h)
    (hf : ∀ a, (f a).All Req.OnSessions) :
    (p >>= f).Traced (fun h q => TenantMay ctx h call q) (fun _ _ => True) h :=
  Prog.wp.bind_guarded hp fun a _ _ => traced_aside (hf a)

variable (enabled : Bool) (backend : SessionBackend)

/-- **Creating a tenant**: five UUIDs are drawn, and the tenant is created under them. -/
lemma traced_createTenant (slug name : String) :
    ((platform enabled backend).createTenant ctx slug name).Traced
      (fun h q => TenantMay ctx h (.createTenant slug name) q) (fun _ _ => True) [] := by
  refine looksUp_requireActor.bind_traced ?_
  rintro actor _ - ⟨rfl, hctx⟩
  refine (Prog.reads_done _).bind_guarded (Prog.all_done _) fun slug' hslug => ?_
  refine (looksUp_newUuid .reads).bind_traced ?_
  rintro id _ hg₁ rfl
  refine (looksUp_now .reads).bind_traced ?_
  rintro t _ hg₂ rfl
  refine (Prog.reads_done _).bind_guarded (Prog.all_done _) fun tenant htenant => ?_
  have hcreate := Except.mapError_eq_ok.mp htenant
  have hid : tenant.id = ⟨id⟩ ∧ tenant.slug = slug' ∧
      Tenant.create tenant.id tenant.slug name actor tenant.createdAt = .ok tenant := by
    obtain ⟨-, rfl⟩ := Tenant.create_eq_ok.mp hcreate
    exact ⟨rfl, rfl, hcreate⟩
  refine traced_then (Prog.wp_mapErr.mpr ?_) fun created =>
    Prog.All.bind (all_notify enabled backend _) fun _ => Prog.all_pure _
  refine (looksUp_newUuid .reads).bind_traced ?_
  rintro owner _ hg₃ rfl
  refine (looksUp_newUuid .reads).bind_traced ?_
  rintro admin _ hg₄ rfl
  refine (looksUp_newUuid .reads).bind_traced ?_
  rintro member _ hg₅ rfl
  refine (looksUp_newUuid .reads).bind_traced ?_
  rintro guest _ hg₆ rfl
  refine traced_then (traced_transaction (.created hctx ?_ hid.2.2 ?_ ?_)) fun _ => Prog.all_done _
  · rw [hid.2.1]
    exact Except.mapError_eq_ok.mp hslug
  · exact (hg₁.trans (hg₂.trans (hg₃.trans (hg₄.trans (hg₅.trans hg₆))))).all
  · rw [hid.1]
    rfl

/-- **Renaming a tenant** after a check. -/
lemma traced_updateTenant (slug name : String) :
    (TenantService.updateTenant ctx slug name).Traced
      (fun h q => TenantMay ctx h (.updateTenant slug name) q) (fun _ _ => True) [] := by
  refine traced_guarded .reads fun actor row tenant h hcheck hfirst hmap => ?_
  refine (looksUp_now .reads).bind_traced fun t h' hg _ => ?_
  refine (Prog.reads_done _).bind_guarded (Prog.all_done _) fun renamed hrenamed => ?_
  have hrenamed : renamed = { tenant with name, updatedAt := t } := by
    unfold Tenant.rename at hrenamed
    split at hrenamed
    · cases hrenamed
    · exact (Except.ok.inj hrenamed).symm
  subst hrenamed
  refine Prog.wp_mapErr.mpr ?_
  refine traced_statement (.renamed (hcheck.grown hg) (hfirst.grown hg) hmap) fun (rows : Nat) => ?_
  exact (Prog.all_rejectIf _ _).bind fun _ => Prog.all_pure _

/-- **Deleting a tenant** after a check. -/
lemma traced_deleteTenant (slug : String) :
    (TenantService.deleteTenant ctx slug).Traced
      (fun h q => TenantMay ctx h (.deleteTenant slug) q) (fun _ _ => True) [] := by
  refine traced_guarded .reads fun actor row tenant h hcheck hfirst hmap => ?_
  rw [mapTenantRow_id hmap]
  refine Prog.wp_mapErr.mpr ?_
  exact traced_statement (.deleted hcheck hfirst) fun (rows : Nat) => Prog.all_rejectIf _ _

/-- **Adding a member** after a check, who is not the owner that was read. -/
lemma traced_addMember (slug email : String) (role : TenantRole) :
    ((platform enabled backend).addMember ctx slug email role).Traced
      (fun h q => TenantMay ctx h (.addMember slug email role) q) (fun _ _ => True) [] := by
  refine traced_guarded .reads fun actor row tenant h hcheck hfirst hmap => ?_
  refine (looksUp_findTargetUser .reads).bind_traced fun target h₁ hg₁ _ => ?_
  refine (Prog.reads_rejectIf _ _).bind_guarded (Prog.all_rejectIf _ _) fun _ hu => ?_
  rw [mapTenantRow_ownerId hmap] at hu
  refine (looksUp_now .reads).bind_traced fun t h₂ hg₂ _ => ?_
  rw [mapTenantRow_id hmap]
  refine traced_then (Prog.wp_mapErr.mpr ?_) fun created =>
    (all_notify enabled backend _).bind fun _ => Prog.all_pure _
  refine (looksUp_findRoleIdByName .reads).mapErr.bind_traced fun id h₃ hg₃ hrole => ?_
  have hg := hg₁.trans (hg₂.trans hg₃)
  exact traced_statement (.memberAdded (hcheck.grown hg) (hfirst.grown hg) hu hrole) fun r =>
    Prog.all_done _

/-- **Changing the role of a member** after a check, who is not the owner that was read. -/
lemma traced_updateMemberRole (slug email : String) (role : TenantRole) :
    ((platform enabled backend).updateMemberRole ctx slug email role).Traced
      (fun h q => TenantMay ctx h (.updateMemberRole slug email role) q) (fun _ _ => True) [] := by
  refine traced_guarded .reads fun actor row tenant h hcheck hfirst hmap => ?_
  refine (looksUp_findTargetUser .reads).bind_traced fun target h₁ hg₁ _ => ?_
  refine (Prog.reads_rejectIf _ _).bind_guarded (Prog.all_rejectIf _ _) fun _ hu => ?_
  rw [mapTenantRow_ownerId hmap] at hu
  rw [mapTenantRow_id hmap]
  refine (looksUp_find .reads).mapErr.bind_traced fun existing h₂ hg₂ _ => ?_
  refine (Prog.reads_rejectIf _ _).bind_guarded (Prog.all_rejectIf _ _) fun _ _ => ?_
  refine traced_then (Prog.wp_mapErr.mpr ?_) fun _ => all_notify enabled backend _
  refine (looksUp_find .reads).bind_traced fun existing h₃ hg₃ _ => ?_
  refine (Prog.reads_rejectIf _ _).bind_guarded (Prog.all_rejectIf _ _) fun _ _ => ?_
  refine (looksUp_findRoleIdByName .reads).bind_traced fun id h₄ hg₄ hrole => ?_
  have hg := hg₁.trans (hg₂.trans (hg₃.trans hg₄))
  exact traced_statement (.memberUpdated (hcheck.grown hg) (hfirst.grown hg) hu hrole) fun (r : Nat) =>
    Prog.all_rejectIf _ _

/-- **Removing a member** after a check, who is not the owner that was read. -/
lemma traced_removeMember (slug email : String) :
    ((platform enabled backend).removeMember ctx slug email).Traced
      (fun h q => TenantMay ctx h (.removeMember slug email) q) (fun _ _ => True) [] := by
  refine traced_guarded .reads fun actor row tenant h hcheck hfirst hmap => ?_
  refine (looksUp_findTargetUser .reads).bind_traced fun target h₁ hg₁ _ => ?_
  refine (Prog.reads_rejectIf _ _).bind_guarded (Prog.all_rejectIf _ _) fun _ hu => ?_
  rw [mapTenantRow_ownerId hmap] at hu
  rw [mapTenantRow_id hmap]
  refine traced_then (Prog.wp_mapErr.mpr ?_) fun _ => all_notify enabled backend _
  exact traced_statement (.memberRemoved (hcheck.grown hg₁) (hfirst.grown hg₁) hu) fun (r : Nat) =>
    Prog.all_rejectIf _ _

/-- **Creating an invite** after a check, to a role that was found by name. -/
lemma traced_createInvite (slug email : String) (role : TenantRole) :
    (TenantService.createInvite ctx slug email role).Traced
      (fun h q => TenantMay ctx h (.createInvite slug email role) q) (fun _ _ => True) [] := by
  refine traced_guarded .reads fun actor row tenant h hcheck hfirst hmap => ?_
  refine (Prog.reads_done _).bind_guarded (Prog.all_done _) fun address _ => ?_
  rw [mapTenantRow_id hmap]
  refine (looksUp_findRoleByName .reads).mapErr.bind_traced fun found h₁ hg₁ hread => ?_
  refine (Prog.reads_ofOption _ _).bind_guarded (Prog.all_ofOption _ _) fun r hr => ?_
  subst hr
  refine (looksUp_generateSecureToken .reads).bind_traced fun token h₂ hg₂ _ => ?_
  refine (looksUp_now .reads).bind_traced fun t h₃ hg₃ _ => ?_
  refine (looksUp_newUuid .reads).bind_traced fun id h₄ hg₄ hid => ?_
  have hg := hg₁.trans (hg₂.trans (hg₃.trans hg₄))
  have hrole : queriedEvent (.roleByName row.id role.asStr) (some r) ∈ h₄ :=
    (hg₂.trans (hg₃.trans hg₄)).mem (hread ▸ List.mem_cons_self)
  refine Prog.wp_mapErr.mpr ?_
  refine Prog.wp.bind_guarded (Q := fun _ _ => True) (Prog.wp_mapErr.mpr (Prog.wp_ask.mpr
    ⟨.inviteCreated (hcheck.grown hg) (hfirst.grown hg) hrole (hid ▸ List.mem_cons_self) rfl rfl
      rfl rfl, fun _ _ _ => Prog.wp_done.mpr trivial⟩)) fun _ _ _ => traced_aside ?_
  exact Prog.All.bind (Prog.All.bind (Prog.All.mapErr ⟨trivial, fun _ => trivial⟩)
    fun _ => Prog.all_pure _) fun _ => Prog.all_ofOption _ _

/-- **Accepting an invite**: the actor joins after the invite was read, and the invite is marked
after the actor has joined. -/
lemma traced_acceptInvite (token : String) :
    ((platform enabled backend).acceptInvite ctx token).Traced
      (fun h q => TenantMay ctx h (.acceptInvite token) q) (fun _ _ => True) [] := by
  refine traced_acceptable .reads fun actor inv roleName role t h hinv hfirst => ?_
  refine Prog.wp.bind_guarded (Q := fun r h' => ∀ c, r = .ok c → Prog.Grown (fun _ => True) h h' ∧
      ∃ m, insertedEvent (newMembershipRow inv.tenantId actor role t inv.tenantRoleId) m ∈ h')
    (Prog.wp_mapErr.mpr ?_) fun created h' hjoined => ?_
  · refine Prog.wp_bind.mpr (Prog.wp_mapErr.mpr (Prog.wp_ask.mpr ⟨.inviteUsed hinv hfirst, ?_⟩))
    rintro a _ rfl
    rcases a with e | m
    · exact Prog.wp_done.mpr fun _ hc => nomatch hc
    · exact Prog.wp_done.mpr (Prog.wp_done.mpr fun _ _ =>
        ⟨.cons trivial, m, List.mem_cons_self⟩)
  · obtain ⟨hg, m, hm⟩ := hjoined created rfl
    refine traced_then (Prog.wp_mapErr.mpr ?_) fun _ => (all_notify enabled backend _).bind fun _ => ?_
    · refine Prog.wp.bind_guarded (Q := fun _ _ => True) (Prog.wp_mapErr.mpr (Prog.wp_ask.mpr
        ⟨.inviteMarked (hinv.grown hg) hm, fun _ _ _ => Prog.wp_done.mpr trivial⟩))
        fun (rows : Nat) _ _ => traced_aside (Prog.all_rejectIf _ _)
    · have hread : (PgTenantRepository.findById inv.tenantId).All Req.OnSessions :=
        Prog.All.bind (Prog.All.mapErr ⟨trivial, fun _ => trivial⟩) fun _ => Prog.all_done _
      exact hread.mapErr.bind fun _ => (Prog.all_ofOption _ _).bind fun _ => Prog.all_pure _

/-- **Creating a role** after a check, under a UUID that was drawn. -/
lemma traced_createRole (slug name description : String) (permissionIds : List PermissionId) :
    (TenantService.createRole ctx slug name description permissionIds).Traced
      (fun h q => TenantMay ctx h (.createRole slug name description permissionIds) q)
      (fun _ _ => True) [] := by
  refine traced_guarded .reads fun actor row tenant h hcheck hfirst hmap => ?_
  refine (Prog.reads_rejectIf _ _).bind_guarded (Prog.all_rejectIf _ _) fun _ _ => ?_
  refine (looksUp_newUuid .reads).bind_traced fun id h₁ hg₁ hread => ?_
  refine (looksUp_now .reads).bind_traced fun t h₂ hg₂ _ => ?_
  rw [mapTenantRow_id hmap]
  have hg := hg₁.trans hg₂
  have hmay : TenantMay ctx h₂ (.createRole slug name description permissionIds)
      (.transaction (.createRole ((TenantRoleAggregate.new ⟨id⟩ row.id (trim name) description
        t).withPermissions permissionIds t))) :=
    .roleCreated (hcheck.grown hg) (hfirst.grown hg) (hg₂.mem (hread ▸ List.mem_cons_self)) rfl
      rfl rfl
  exact traced_then (Prog.wp_mapErr.mpr (traced_transaction hmay)) fun _ => Prog.all_pure _

/-- **Replacing the permissions of a role** after a check. -/
lemma traced_updateRole (slug : String) (roleId : RoleId) (permissionIds : List PermissionId) :
    (TenantService.updateRole ctx slug roleId permissionIds).Traced
      (fun h q => TenantMay ctx h (.updateRole slug roleId permissionIds) q)
      (fun _ _ => True) [] := by
  refine traced_guarded .reads fun actor row tenant h hcheck hfirst hmap => ?_
  rw [mapTenantRow_id hmap]
  refine (looksUp_findRoleById .reads).mapErr.bind_traced fun found h₁ hg₁ _ => ?_
  refine (Prog.reads_ofOption _ _).bind_guarded (Prog.all_ofOption _ _) fun _ _ => ?_
  refine traced_then (Prog.wp_mapErr.mpr (traced_transaction
    (.roleUpdated (hcheck.grown hg₁) (hfirst.grown hg₁)))) fun _ => ?_
  have hread : (PgRoleRepository.findRoleById row.id roleId).All Req.OnSessions :=
    Prog.All.mapErr ⟨trivial, fun _ => trivial⟩
  exact hread.mapErr.bind fun _ => Prog.all_ofOption _ _

/-- **Deleting a role** after a check. -/
lemma traced_deleteRole (slug : String) (roleId : RoleId) :
    (TenantService.deleteRole ctx slug roleId).Traced
      (fun h q => TenantMay ctx h (.deleteRole slug roleId) q) (fun _ _ => True) [] := by
  refine traced_guarded .reads fun actor row tenant h hcheck hfirst hmap => ?_
  rw [mapTenantRow_id hmap]
  refine (looksUp_findRoleById .reads).mapErr.bind_traced fun found h₁ hg₁ _ => ?_
  refine (Prog.reads_ofOption _ _).bind_guarded (Prog.all_ofOption _ _) fun _ _ => ?_
  refine Prog.wp_mapErr.mpr ?_
  refine traced_statement (.roleDeleted (hcheck.grown hg₁) (hfirst.grown hg₁)) fun (rows : Nat) => ?_
  by_cases hrows : rows > 0
  · rw [if_pos hrows]
    exact Prog.all_pure _
  · rw [if_neg hrows]
    refine Prog.All.bind (Prog.All.mapErr ⟨trivial, fun _ => trivial⟩) fun isSystem => ?_
    split <;> exact trivial

/-- **Every call keeps to its trace**, whatever the other calls do. -/
theorem TenantCall.traced (call : TenantCall) :
    (call.run (platform enabled backend) ctx).Traced (fun h q => TenantMay ctx h call q)
      (fun _ _ => True) [] := by
  have hmap : ∀ {α : Type} {p : Action TenantError α},
      p.Traced (fun h q => TenantMay ctx h call q) (fun _ _ => True) [] →
      ((fun _ => ()) <$> p).Traced (fun h q => TenantMay ctx h call q) (fun _ _ => True) [] :=
    fun hp => Prog.wp_map.mpr hp
  cases call with
  | createTenant slug name => exact hmap (traced_createTenant enabled backend slug name)
  | updateTenant slug name => exact hmap (traced_updateTenant slug name)
  | deleteTenant slug => exact traced_deleteTenant slug
  | addMember slug email role => exact hmap (traced_addMember enabled backend slug email role)
  | updateMemberRole slug email role =>
    exact traced_updateMemberRole enabled backend slug email role
  | removeMember slug email => exact traced_removeMember enabled backend slug email
  | createInvite slug email role => exact hmap (traced_createInvite slug email role)
  | acceptInvite token => exact hmap (traced_acceptInvite enabled backend token)
  | createRole slug name description permissionIds =>
    exact hmap (traced_createRole slug name description permissionIds)
  | updateRole slug roleId permissionIds =>
    exact hmap (traced_updateRole slug roleId permissionIds)
  | deleteRole slug roleId => exact traced_deleteRole slug roleId

end Calls

end Klynt
