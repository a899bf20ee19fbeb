import Klynt.System.CallEffect

set_option relaxedAutoImplicit false
set_option autoImplicit false

/-!
# Calls that pass their checks

`CallEffect` follows a call to its end, whatever fails in it.  Here the successful runs of the
common prefix of the use cases are described exactly: it is passed by an actor who has the
permission, within a tenant whose row is mapped, and it changes nothing.

## Main definitions

* `Req.Determined` — requests that have one answer if nothing fails.

## Main results

* `exec_guarded_ok` — the runs that pass the guarded prefix.
* `exec_unique` — a program of determined requests has one run if nothing fails.
-/

namespace Klynt

/-! ## Determined programs -/

/-- A request whose answer the world determines if nothing fails. -/
def Req.Determined : Req → Prop
  | .clock | .query _ | .update _ => True
  | _ => False

/-- If nothing fails, a determined request has one answer. -/
lemma Req.Determined.unique {q : Req} (hq : q.Determined) {w w₁ w₂ : World} {a b : Ans q}
    (h₁ : Env noFault q w a w₁) (h₂ : Env noFault q w b w₂) : a = b ∧ w₁ = w₂ := by
  cases q with
  | clock =>
    obtain ⟨rfl, rfl⟩ := h₁
    obtain ⟨rfl, rfl⟩ := h₂
    exact ⟨rfl, rfl⟩
  | query q =>
    obtain ⟨rfl, rfl | ⟨hF, -⟩⟩ := h₁
    · obtain ⟨rfl, rfl | ⟨hF, -⟩⟩ := h₂
      · exact ⟨rfl, rfl⟩
      · exact hF.elim
    · exact hF.elim
  | update u =>
    rcases h₁ with ⟨r, db, hx, rfl, rfl⟩ | ⟨e, hx, rfl, rfl⟩ | ⟨hF, -⟩
    · rcases h₂ with ⟨r', db', hx', rfl, rfl⟩ | ⟨e', hx', rfl, rfl⟩ | ⟨hF, -⟩
      · obtain ⟨rfl, rfl⟩ := Prod.mk.inj (Except.ok.inj (hx.symm.trans hx'))
        exact ⟨rfl, rfl⟩
      · cases hx.symm.trans hx'
      · exact hF.elim
    · rcases h₂ with ⟨r', db', hx', rfl, rfl⟩ | ⟨e', hx', rfl, rfl⟩ | ⟨hF, -⟩
      · cases hx.symm.trans hx'
      · obtain rfl := Except.error.inj (hx.symm.trans hx')
        exact ⟨rfl, rfl⟩
      · exact hF.elim
    · exact hF.elim
  | _ => exact hq.elim

/-- **A determined program has one run** if nothing fails. -/
theorem exec_unique {ε α : Type} {p : Action ε α} (hp : p.All Req.Determined) {w w₁ w₂ : World}
    {r₁ r₂ : Except ε α} (h₁ : p.Exec (Env noFault) w r₁ w₁) (h₂ : p.Exec (Env noFault) w r₂ w₂) :
    r₁ = r₂ ∧ w₁ = w₂ :=
  Prog.Exec.unique (fun _ _ _ _ _ _ hq => hq.unique) hp h₁ h₂

/-! ## The guarded prefix -/

variable {F : Req → Prop} {w w' : World} {ctx : ExecutionContext}

/-- A value that an option holds. -/
lemma exec_ofOption_ok {ε α : Type} {e : ε} {o : Option α} {a : α} :
    (.ofOption e o : Action ε α).Exec (Env F) w (.ok a) w' ↔ o = some a ∧ w' = w := by
  rw [Prog.exec_ofOption]
  refine and_congr_left fun _ => ⟨?_, fun h => .inl ⟨a, h, rfl⟩⟩
  rintro (⟨b, rfl, hb⟩ | ⟨-, he⟩)
  · exact congrArg some (Except.ok.inj hb).symm
  · cases he

/-- A condition that does not hold. -/
lemma exec_rejectIf_ok {ε : Type} {c : Prop} [Decidable c] {e : ε} :
    (.rejectIf c e : Action ε Unit).Exec (Env F) w (.ok ()) w' ↔ ¬ c ∧ w' = w := by
  rw [Prog.exec_rejectIf]
  refine and_congr_left fun _ => ⟨?_, fun h => .inl ⟨h, rfl⟩⟩
  rintro (⟨hc, -⟩ | ⟨-, he⟩)
  · exact hc
  · cases he

/-- The actor of a call that has one. -/
lemma exec_requireActor_ok {actor : UserId} :
    (requireActor ctx).Exec (Env F) w (.ok actor) w' ↔
      ctx.actorId = some actor.inner ∧ w' = w := by
  refine exec_ofOption_ok.trans (and_congr_left fun _ => ⟨fun h => ?_, fun h => ?_⟩)
  · obtain ⟨u, hu, rfl⟩ := Option.map_eq_some_iff.mp h
    exact hu
  · rw [h]
    rfl

variable [Unicode]

/-- A tenant row is mapped if its status and slug parse. -/
lemma mapTenantRow_ok {row : TenantRow} {status : TenantStatus} {slug : TenantSlug}
    (hstatus : TenantStatus.fromStr row.status = .ok status)
    (hslug : TenantSlug.parse row.slug = .ok slug) :
    mapTenantRow row = .ok
      { id := row.id, slug, name := row.name, ownerId := row.ownerId,
        maxMembers := row.maxMembers, maxOwners := row.maxOwners, settings := row.settings,
        status, createdAt := row.createdAt, updatedAt := row.updatedAt } := by
  unfold mapTenantRow
  rw [hstatus, hslug]
  rfl

/-- A successful lookup of a tenant by a canonical slug. -/
lemma PgTenantRepository.exec_findBySlug_ok {s : TenantSlug} {found : Option Tenant} :
    (findBySlug s).Exec (Env F) w (.ok found) w' ↔
      mapOption mapTenantRow (w.db.tenants.find? (·.slug = s.text)) = .ok found ∧ w' = w := by
  simp only [findBySlug, Prog.exec_bind_ok, Prog.exec_mapErr_ok, exec_select_ok, Prog.exec_done]
  constructor
  · rintro ⟨a, w₁, ⟨rfl, rfl⟩, h, rfl⟩
    exact ⟨h.symm, rfl⟩
  · rintro ⟨h, rfl⟩
    exact ⟨_, _, ⟨rfl, rfl⟩, h.symm, rfl⟩

/-- **A tenant is fetched** if its row is found and mapped. -/
lemma exec_fetchTenant_ok {slug : String} {tenant : Tenant} :
    (fetchTenant slug).Exec (Env F) w (.ok tenant) w' ↔
      (∃ row, w.db.tenantNamed? slug = some row ∧ mapTenantRow row = .ok tenant) ∧ w' = w := by
  constructor
  · intro h
    have hread := reads_fetchTenant.of_exec h
    exact ⟨hread.2 _ rfl, hread.1⟩
  · rintro ⟨⟨row, hrow, hmap⟩, rfl⟩
    unfold Db.tenantNamed? at hrow
    split at hrow
    · rename_i s hs
      have hparse : (TenantSlug.parse slug).mapError TenantError.domain = .ok s := by rw [hs]; rfl
      refine Prog.exec_bind_ok.mpr ⟨s, w', Prog.exec_done.mpr ⟨hparse.symm, rfl⟩, ?_⟩
      refine Prog.exec_bind_ok.mpr ⟨some tenant, w', Prog.exec_mapErr_ok.mpr
        (PgTenantRepository.exec_findBySlug_ok.mpr ⟨?_, rfl⟩), exec_ofOption_ok.mpr ⟨rfl, rfl⟩⟩
      exact mapOption_eq_some.mpr ⟨row, hrow, hmap⟩
    · cases hrow

/-- **A permission is required** successfully if it is granted. -/
lemma exec_requirePermission_ok {t : TenantId} {actor : UserId} {name : String} {e : TenantError} :
    (requirePermission t actor name e).Exec (Env F) w (.ok ()) w' ↔
      w.db.Grants t actor name ∧ w' = w := by
  constructor
  · intro h
    have hread := reads_requirePermission.of_exec h
    exact ⟨hread.2 _ rfl, hread.1⟩
  · rintro ⟨⟨row, role, hrow, hrole, rrow, prow, c, hrrow, hprow, hc, hmem⟩, rfl⟩
    refine Prog.exec_mapErr_ok.mpr ?_
    refine Prog.exec_bind_ok.mpr ⟨_, w', PgMembershipRepository.exec_find_ok.mpr
      ⟨mapOption_eq_some.mpr ⟨row, hrow, mapMembershipRow_eq_ok.mpr ⟨role, hrole, rfl⟩⟩, rfl⟩, ?_⟩
    refine Prog.exec_bind_ok.mpr ⟨_, w', exec_ofOption_ok.mpr ⟨rfl, rfl⟩, ?_⟩
    refine Prog.exec_bind_ok.mpr ⟨_, w', PgRoleRepository.exec_findRoleByName_ok.mpr ⟨rfl, rfl⟩, ?_⟩
    refine Prog.exec_bind_ok.mpr ⟨w'.db.roleAggregate rrow, w', exec_ofOption_ok.mpr ⟨?_, rfl⟩, ?_⟩
    · rw [hrrow]
      rfl
    refine Prog.exec_bind_ok.mpr ⟨_, w', PgPermissionRepository.exec_findPermissionByName_ok.mpr
      ⟨mapOption_eq_some.mpr ⟨prow, hprow, mapPermissionRow_eq_ok.mpr ⟨c, hc, rfl⟩⟩, rfl⟩, ?_⟩
    refine Prog.exec_bind_ok.mpr ⟨_, w', exec_ofOption_ok.mpr ⟨rfl, rfl⟩, ?_⟩
    refine exec_rejectIf_ok.mpr ⟨?_, rfl⟩
    have hgrants := mem_permissionIds.mpr hmem
    simp [AuthorizationService.roleHasPermission, hgrants]

/-- **The runs that pass the guarded prefix.** -/
theorem exec_guarded_ok {α : Type} {slug name : String} {e : TenantError} {a : α}
    {f : UserId → Tenant → Action TenantError α} :
    (do
      let actor ← requireActor ctx
      let tenant ← fetchTenant slug
      requirePermission tenant.id actor name e
      f actor tenant : Action TenantError α).Exec (Env F) w (.ok a) w' ↔
    ∃ actor row tenant, ctx.actorId = some actor.inner ∧ w.db.tenantNamed? slug = some row ∧
      mapTenantRow row = .ok tenant ∧ w.db.Grants row.id actor name ∧
      (f actor tenant).Exec (Env F) w (.ok a) w' := by
  constructor
  · intro h
    obtain ⟨actor, w₁, hactor, h₁⟩ := Prog.exec_bind_ok.mp h
    obtain ⟨tenant, w₂, hfetch, h₂⟩ := Prog.exec_bind_ok.mp h₁
    obtain ⟨_, w₃, hperm, hrun⟩ := Prog.exec_bind_ok.mp h₂
    obtain ⟨hctx, rfl⟩ := exec_requireActor_ok.mp hactor
    obtain ⟨⟨row, hrow, hmap⟩, rfl⟩ := exec_fetchTenant_ok.mp hfetch
    obtain ⟨hgrant, rfl⟩ := exec_requirePermission_ok.mp hperm
    rw [mapTenantRow_id hmap] at hgrant
    exact ⟨actor, row, tenant, hctx, hrow, hmap, hgrant, hrun⟩
  · rintro ⟨actor, row, tenant, hctx, hrow, hmap, hgrant, hrun⟩
    rw [← mapTenantRow_id hmap] at hgrant
    refine Prog.exec_bind_ok.mpr ⟨actor, w, exec_requireActor_ok.mpr ⟨hctx, rfl⟩, ?_⟩
    refine Prog.exec_bind_ok.mpr ⟨tenant, w, exec_fetchTenant_ok.mpr ⟨⟨row, hrow, hmap⟩, rfl⟩, ?_⟩
    exact Prog.exec_bind_ok.mpr ⟨(), w, exec_requirePermission_ok.mpr ⟨hgrant, rfl⟩, hrun⟩

end Klynt
