import Klynt.Domain.Slug
import Klynt.Service.TenantRoutes
import Klynt.System.AdminGate
import Klynt.System.GuardedCall

set_option relaxedAutoImplicit false
set_option autoImplicit false

/-!
# The checked tenant is the used tenant

The middleware of the routes of a tenant reads the slug in the path of the request; handlers take
it from the percent-decoded parameters.  No slug has a percent sign, so that a path on which the two
differ is refused.

## Main definitions

* `ResolvesTo` — an action finds a tenant, and no other.

## Main results

* `exec_resolveSlug_ok` — the middleware and the handlers look slugs up in the same way.
* `checked_tenant_is_used` — what the middleware has verified is what the handlers use.
-/

namespace Klynt

variable [Unicode]

omit [Unicode] in
/-- The action can find the tenant, and never finds another one. -/
def ResolvesTo {ε α : Type} (F : Req → Prop) (w : World) (action : Action ε α)
    (tenantOf : α → TenantId) (t : TenantId) : Prop :=
  (∃ a, action.Exec (Env F) w (.ok a) w ∧ tenantOf a = t) ∧
    ∀ a w', action.Exec (Env F) w (.ok a) w' → tenantOf a = t

variable {F : Req → Prop} {w w' : World} {slug : String} {tenant : Tenant} {t : TenantId}

/-- **A slug is resolved** in the same way as the use cases fetch a tenant. -/
lemma exec_resolveSlug_ok :
    (resolveSlug slug).Exec (Env F) w (.ok tenant) w' ↔
      (∃ row, w.db.tenantNamed? slug = some row ∧ mapTenantRow row = .ok tenant) ∧ w' = w := by
  unfold resolveSlug TenantService.getBySlug Db.tenantNamed?
  simp only [Prog.exec_bind_ok, Prog.exec_done, Prog.exec_mapErr_ok,
    PgTenantRepository.exec_findBySlug_ok, exec_ofOption_ok]
  cases TenantSlug.parse slug with
  | error e =>
    constructor
    · rintro ⟨s, _, ⟨hs, -⟩, -⟩
      cases hs
    · rintro ⟨⟨row, hrow, -⟩, -⟩
      cases hrow
  | ok s =>
    constructor
    · rintro ⟨_, _, ⟨hs, rfl⟩, _, _, ⟨hfound, rfl⟩, rfl, rfl⟩
      obtain rfl : _ = s := Except.ok.inj hs
      exact ⟨mapOption_eq_some.mp hfound, rfl⟩
    · rintro ⟨hrow, rfl⟩
      exact ⟨s, _, ⟨rfl, rfl⟩, _, _, ⟨mapOption_eq_some.mpr hrow, rfl⟩, rfl, rfl⟩

/-- What the middleware does when it lets a request through. -/
lemma exec_requireTenantMembership_ok {ctx : Option ExecutionContext} {path : String}
    {checked : TenantContext} :
    (requireTenantMembership ctx path).Exec (Env F) w (.ok checked) w' ↔
      (ctx = some checked.ctx ∧ ∃ actor slug tenant row role, checked.ctx.actorId = some actor ∧
        extractTenantSlug path = some slug ∧
        (resolveSlug slug).Exec (Env F) w (.ok tenant) w ∧ tenant.id = checked.tenantId ∧
        w.db.membership? checked.tenantId ⟨actor⟩ = some row ∧ TenantRole.parse row.role = .ok role) ∧
        w' = w := by
  unfold requireTenantMembership TenantService.ensureMember
  simp only [Prog.exec_bind_ok, exec_ofOption_ok, Prog.exec_mapErr_ok,
    PgMembershipRepository.exec_find_ok]
  constructor
  · rintro ⟨ctx, _, ⟨rfl, rfl⟩, actor, _, ⟨hactor, rfl⟩, slug, _, ⟨hslug, rfl⟩, tenant, w₁, hresolve,
      _, w₂, ⟨found, w₃, ⟨hfound, rfl⟩, hmember⟩, hchecked⟩
    obtain rfl := (exec_resolveSlug_ok.mp hresolve).2
    cases found with
    | none => cases (Prog.exec_fail.mp hmember).1
    | some m =>
      obtain ⟨-, rfl⟩ := Prog.exec_pure.mp hmember
      obtain ⟨heq, rfl⟩ := Prog.exec_pure.mp hchecked
      obtain rfl := Except.ok.inj heq
      obtain ⟨row, hrow, hmap⟩ := mapOption_eq_some.mp hfound
      obtain ⟨role, hrole, -⟩ := mapMembershipRow_eq_ok.mp hmap
      exact ⟨⟨rfl, actor, slug, tenant, row, role, hactor, hslug, hresolve, rfl, hrow, hrole⟩, rfl⟩
  · rintro ⟨⟨rfl, actor, slug, tenant, row, role, hactor, hslug, hresolve, htenant, hrow, hrole⟩, rfl⟩
    refine ⟨checked.ctx, w', ⟨rfl, rfl⟩, actor, w', ⟨hactor, rfl⟩, slug, w', ⟨hslug, rfl⟩, tenant, w',
      hresolve, (), w', ⟨_, w', ⟨mapOption_eq_some.mpr ⟨row, ?_, mapMembershipRow_eq_ok.mpr
        ⟨role, hrole, rfl⟩⟩, rfl⟩, Prog.exec_pure.mpr ⟨rfl, rfl⟩⟩, Prog.exec_pure.mpr ⟨?_, rfl⟩⟩
    · rw [htenant]
      exact hrow
    · rw [htenant]

/-- A resolved slug is a slug. -/
lemma parse_of_resolveSlug (h : (resolveSlug slug).Exec (Env F) w (.ok tenant) w') :
    ∃ s, TenantSlug.parse slug = .ok s := by
  obtain ⟨⟨row, hrow, -⟩, -⟩ := exec_resolveSlug_ok.mp h
  unfold Db.tenantNamed? at hrow
  split at hrow
  · rename_i s hs
    exact ⟨s, hs⟩
  · cases hrow

/-- Slugs have no percent signs. -/
lemma percent_not_mem (hpercent : ∀ s : String, '%' ∈ s.toList → '%' ∈ (toLowercase s).toList)
    {s : TenantSlug} (h : TenantSlug.parse slug = .ok s) : '%' ∉ slug.toList := by
  intro hmem
  have hlower := hpercent slug hmem
  rw [← TenantSlug.text_of_parse h] at hlower
  exact absurd (s.slugText.chars _ hlower) (by decide)

/-- What the extractor does when it succeeds. -/
lemma exec_fromRequestParts_ok {ctx : Option ExecutionContext} {params : Except String Params}
    {used : TenantContext} :
    (TenantContext.fromRequestParts ctx params).Exec (Env F) w (.ok used) w' ↔
      (ctx = some used.ctx ∧ ∃ ps slug tenant, params = .ok ps ∧ ps.lookup "tenant_slug" = some slug ∧
        (resolveSlug slug).Exec (Env F) w (.ok tenant) w ∧ tenant.id = used.tenantId) ∧ w' = w := by
  unfold TenantContext.fromRequestParts
  simp only [Prog.exec_bind_ok, exec_ofOption_ok, Prog.exec_done]
  constructor
  · rintro ⟨ctx, _, ⟨rfl, rfl⟩, ps, _, ⟨hparams, rfl⟩, slug, _, ⟨hslug, rfl⟩, tenant, w₁, hresolve,
      hused⟩
    obtain rfl := (exec_resolveSlug_ok.mp hresolve).2
    obtain ⟨heq, rfl⟩ := Prog.exec_pure.mp hused
    obtain rfl := Except.ok.inj heq
    exact ⟨⟨rfl, ps, slug, tenant, Except.mapError_eq_ok.mp hparams.symm, hslug, hresolve, rfl⟩, rfl⟩
  · rintro ⟨⟨rfl, ps, slug, tenant, rfl, hslug, hresolve, htenant⟩, rfl⟩
    refine ⟨used.ctx, w', ⟨rfl, rfl⟩, ps, w', ⟨rfl, rfl⟩, slug, w', ⟨hslug, rfl⟩, tenant, w', hresolve,
      Prog.exec_pure.mpr ⟨?_, rfl⟩⟩
    rw [htenant]

/-- A resolved slug stays so while the tenants are the same. -/
lemma tenantNamed?_congr {w₁ : World} (hsame : w₁.db.tenants = w.db.tenants) :
    w₁.db.tenantNamed? slug = w.db.tenantNamed? slug := by
  unfold Db.tenantNamed?
  rw [hsame]

/-- The use cases find the tenant of a resolved slug. -/
lemma resolvesTo_fetchTenant {w₁ : World} (hresolve : (resolveSlug slug).Exec (Env F) w (.ok tenant) w)
    (hsame : w₁.db.tenants = w.db.tenants) :
    ResolvesTo F w₁ (fetchTenant slug) Tenant.id tenant.id := by
  obtain ⟨⟨row, hrow, hmap⟩, -⟩ := exec_resolveSlug_ok.mp hresolve
  rw [← tenantNamed?_congr hsame] at hrow
  refine ⟨⟨tenant, exec_fetchTenant_ok.mpr ⟨⟨row, hrow, hmap⟩, rfl⟩, rfl⟩, fun found w₂ hfound => ?_⟩
  obtain ⟨⟨row', hrow', hmap'⟩, -⟩ := exec_fetchTenant_ok.mp hfound
  obtain rfl := Option.some.inj (hrow.symm.trans hrow')
  rw [Except.ok.inj (hmap'.symm.trans hmap)]

/-- The extractor finds the tenant of a resolved slug. -/
lemma resolvesTo_fromRequestParts {w₁ : World} {ctx : ExecutionContext} {params : Params}
    (hresolve : (resolveSlug slug).Exec (Env F) w (.ok tenant) w)
    (hsame : w₁.db.tenants = w.db.tenants) (hslug : params.lookup "tenant_slug" = some slug) :
    ResolvesTo F w₁ (TenantContext.fromRequestParts (some ctx) (.ok params)) TenantContext.tenantId
      tenant.id := by
  obtain ⟨⟨row, hrow, hmap⟩, -⟩ := exec_resolveSlug_ok.mp hresolve
  rw [← tenantNamed?_congr hsame] at hrow
  constructor
  · refine ⟨{ ctx, tenantId := tenant.id }, exec_fromRequestParts_ok.mpr ⟨⟨rfl, params, slug, tenant,
      rfl, hslug, exec_resolveSlug_ok.mpr ⟨⟨row, hrow, hmap⟩, rfl⟩, rfl⟩, rfl⟩, rfl⟩
  · intro used w₂ hused
    obtain ⟨⟨-, ps, slug', found, hps, hslug', hfound, hid⟩, -⟩ := exec_fromRequestParts_ok.mp hused
    obtain rfl := Except.ok.inj hps
    obtain rfl := Option.some.inj (hslug.symm.trans hslug')
    obtain ⟨⟨row', hrow', hmap'⟩, -⟩ := exec_resolveSlug_ok.mp hfound
    obtain rfl := Option.some.inj (hrow.symm.trans hrow')
    rw [← hid, Except.ok.inj (hmap'.symm.trans hmap)]

omit [Unicode] in
/-- The parameter of the slug, once it is decoded. -/
lemma decode_cons (slug : String) {name : String} {rest : List (String × List Char)} {params : Params}
    (hslug : '%' ∉ slug.toList) (h : Params.decode ((name, slug.toList) :: rest) = .ok params) :
    ∃ params', params = (name, slug) :: params' := by
  unfold Params.decode at h
  rw [List.mapM_cons] at h
  obtain ⟨x, hx, h⟩ := Except.bind_eq_ok.mp h
  obtain ⟨params', -, h⟩ := Except.bind_eq_ok.mp h
  dsimp only at hx
  rw [String.ofList_toList, percentDecoded?_of_not_mem hslug] at hx
  obtain rfl := Except.ok.inj hx
  exact ⟨params', (Except.ok.inj h).symm⟩

omit [Unicode] in
/-- A handler takes the first parameter. -/
lemma SlugParam.read_cons {take : SlugParam} {slug slug' : String} {params : Params}
    (h : take.read (("tenant_slug", slug) :: params) = some slug') : slug' = slug := by
  cases take with
  | single =>
    cases params with
    | nil => exact (Option.some.inj h).symm
    | cons x xs => cases h
  | withRole =>
    match params, h with
    | [(_, roleId)], h =>
      obtain ⟨_, -, rfl⟩ := Option.map_eq_some_iff.mp h
      rfl
  | named => exact (Option.some.inj h).symm

/-- **The checked tenant is the used tenant.** A request that the middleware lets through has an
actor who is a member of a tenant; and whichever way a handler of a matching route takes the slug,
it finds this tenant and no other.

**Proof sketch.** The middleware cuts out the parameter of the slug before it is decoded.  No slug
has a percent sign, so that the parameter is what the handler takes, and both look it up in the same
way. -/
theorem checked_tenant_is_used
    (hpercent : ∀ s : String, '%' ∈ s.toList → '%' ∈ (toLowercase s).toList)
    {route : List Segment} {takes : List SlugParam} (hroute : (route, takes) ∈ memberRequiredRoutes)
    {path seen : String} {params : Params} (hparams : routeParams route path = some (.ok params))
    (hseen : seen = path ∨ seen = nestedPath path) {ctx : Option ExecutionContext}
    {checked : TenantContext}
    (hchecked : (requireTenantMembership ctx seen).Exec (Env F) w (.ok checked) w') :
    (∃ actor row, checked.ctx.actorId = some actor ∧
      w.db.membership? checked.tenantId ⟨actor⟩ = some row) ∧
    ∀ w₁ : World, w₁.db.tenants = w.db.tenants →
      ResolvesTo F w₁ (TenantContext.fromRequestParts (some checked.ctx) (.ok params))
        TenantContext.tenantId checked.tenantId ∧
      ∀ take ∈ takes, ∀ slug, take.read params = some slug →
        ResolvesTo F w₁ (fetchTenant slug) Tenant.id checked.tenantId := by
  obtain ⟨⟨rfl, actor, slug, tenant, row, role, hactor, hslug, hresolve, htenant, hrow, -⟩, -⟩ :=
    exec_requireTenantMembership_ok.mp hchecked
  refine ⟨⟨actor, row, hactor, hrow⟩, fun w₁ hsame => ?_⟩
  obtain ⟨raw, hraw, hdecode⟩ := Option.map_eq_some_iff.mp hparams
  obtain ⟨cut, rest, rfl, hcut⟩ := extractTenantSlug_of_match hroute hraw hseen
  obtain rfl := Option.some.inj (hcut.symm.trans hslug)
  obtain ⟨s, hs⟩ := parse_of_resolveSlug hresolve
  have hplain := percent_not_mem hpercent hs
  obtain ⟨params', rfl⟩ := decode_cons (String.ofList cut) hplain (by
    rw [String.toList_ofList]
    exact hdecode)
  rw [← htenant]
  refine ⟨resolvesTo_fromRequestParts hresolve hsame rfl, fun take _ slug' hread => ?_⟩
  rw [SlugParam.read_cons hread]
  exact resolvesTo_fetchTenant hresolve hsame

/-! ## A request -/

namespace Scenario

/-- The path of a request. -/
def layoutPath : String := "/api/v1/tenants/Acme/desktop-layout"

omit [Unicode] in
/-- The middleware lets the request of the owner through. -/
lemma exec_checked : ∃ checked w',
    (@requireTenantMembership Unicode.ascii (some (ctx 901)) (nestedPath layoutPath)).Exec (Env noFault)
      (played [(901, .createTenant "acme" "Acme")]) (.ok checked) w' := by
  have hok : ((@requireTenantMembership Unicode.ascii (some (ctx 901))
      (nestedPath layoutPath)).eval World.answer
        (played [(901, .createTenant "acme" "Acme")])).1.isOk = true := by
    decide +kernel
  obtain ⟨checked, hchecked⟩ := exec_of_isOk hok noFault
  exact ⟨checked, _, hchecked⟩

end Scenario

omit [Unicode] in
/-- ASCII lower-casing keeps percent signs. -/
lemma ascii_keeps_percent (s : String) (h : '%' ∈ s.toList) :
    '%' ∈ (Unicode.ascii.toLowercase s).toList := by
  show '%' ∈ (String.ofList (s.toList.map Char.toLower)).toList
  rw [String.toList_ofList]
  exact List.mem_map.mpr ⟨'%', h, by decide⟩

omit [Unicode] in
/-- The owner of a tenant asks for its shared layout. -/
theorem checked_tenant_is_used_owner :
    ∃ checked : TenantContext, ResolvesTo noFault
      (Scenario.played [(901, .createTenant "acme" "Acme")])
      (@fetchTenant Unicode.ascii "Acme") Tenant.id checked.tenantId := by
  obtain ⟨checked, w', hchecked⟩ := Scenario.exec_checked
  have hparams : routeParams [.param "tenant_slug", .lit "desktop-layout"] Scenario.layoutPath =
      some (.ok [("tenant_slug", "Acme")]) := by
    decide +kernel
  have hroute : ([.param "tenant_slug", .lit "desktop-layout"], [.named, .single]) ∈
      memberRequiredRoutes := by
    simp [memberRequiredRoutes]
  obtain ⟨-, hused⟩ := @checked_tenant_is_used Unicode.ascii _ _ _ ascii_keeps_percent _ _ hroute _ _ _
    hparams (.inr rfl) _ _ hchecked
  exact ⟨checked, (hused _ rfl).2 .single (by simp) "Acme" rfl⟩

end Klynt
