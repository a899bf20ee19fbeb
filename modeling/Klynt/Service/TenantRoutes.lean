import Klynt.Lib.Percent
import Klynt.Domain.Email
import Klynt.Service.Tenant

set_option relaxedAutoImplicit false
set_option autoImplicit false

/-!
# The routes of a tenant

The routes below a tenant run behind a middleware that resolves the tenant from the path of the
request and verifies that the actor is a member.  The handlers take the tenant from the parameters
of the route, which the router has percent-decoded.

## Main definitions

* `memberRequiredRoutes` — the routes, with how their handlers take the slug.
* `routeParams` — the parameters of a path at a route.
* `extractTenantSlug`, `requireTenantMembership` — the middleware.
* `TenantContext.fromRequestParts` — the extractor of the active tenant.

## Main results

* `extractTenantSlug_of_match` — at every route, the middleware cuts out the parameter of the slug,
  before it is decoded.

## Implementation notes

The router picks one of the routes that a path matches; what is proved holds at all of them.  The
routes are nested below `/api/v1` and `/tenants`, and the middleware sees the path without that
prefix; paths with it are covered as well.
-/

namespace Klynt

/-! ## The router -/

/-- A segment of a route. -/
inductive Segment where
  /-- A fixed text. -/
  | lit (text : String)
  /-- A parameter, which is not empty. -/
  | param (name : String)

/-- The parameters of the segments of a path, if they match a route. -/
def Segment.matchAll : List Segment → List (List Char) → Option (List (String × List Char))
  | [], [] => some []
  | .lit text :: route, x :: path => if x = text.toList then matchAll route path else none
  | .param name :: route, x :: path =>
    if x = [] then none else (matchAll route path).map ((name, x) :: ·)
  | _, _ => none

/-- The parameters of a request. -/
abbrev Params : Type := List (String × String)

/-- Parameters are percent-decoded; the error is the name of the first one that is no text. -/
def Params.decode (raw : List (String × List Char)) : Except String Params :=
  raw.mapM fun x =>
    match percentDecoded? (String.ofList x.2) with
    | some value => .ok (x.1, value)
    | none => .error x.1

/-- Where the routes of tenants are nested. -/
def nestedBelow : List Segment := [.lit "", .lit "api", .lit "v1", .lit "tenants"]

/-- The parameters of a path at a route, before they are decoded. -/
def rawParams (route : List Segment) (path : String) : Option (List (String × List Char)) :=
  Segment.matchAll (nestedBelow ++ route) (path.toList.splitOn '/')

/-- The parameters of a path at a route. -/
def routeParams (route : List Segment) (path : String) : Option (Except String Params) :=
  (rawParams route path).map Params.decode

/-- The path as the nested router sees it. -/
def nestedPath (path : String) : String :=
  String.ofList (path.toList.drop "/api/v1/tenants".toList.length)

/-- How a handler takes the slug. -/
inductive SlugParam where
  /-- `Path<String>`. -/
  | single
  /-- `Path<(String, RoleId)>`. -/
  | withRole
  /-- `Path<HashMap<String, String>>`, by its name. -/
  | named

/-- The slug that a handler takes. -/
def SlugParam.read : SlugParam → Params → Option String
  | single, [(_, slug)] => some slug
  | withRole, [(_, slug), (_, roleId)] => (Uuid.parse? roleId).map fun _ => slug
  | named, params => params.lookup "tenant_slug"
  | _, _ => none

/-- The routes behind the middleware, with how their handlers take the slug. -/
def memberRequiredRoutes : List (List Segment × List SlugParam) :=
  [([.param "tenant_slug"], [.single]),
    ([.param "tenant_slug", .lit "members"], [.single]),
    ([.param "tenant_slug", .lit "invites"], [.single]),
    ([.param "tenant_slug", .lit "roles"], [.single]),
    ([.param "tenant_slug", .lit "roles", .param "role_id"], [.withRole]),
    ([.param "tenant_slug", .lit "desktop-layout"], [.named, .single]),
    ([.param "tenant_slug", .lit "desktop-layout", .lit "me"], [.named])]

/-! ## The slug of a path -/

/-- `str::strip_prefix`, or the text if there is no such prefix. -/
def stripPrefix (start text : List Char) : List Char :=
  if start.isPrefixOf text then text.drop start.length else text

/-- `TENANTS_PATH_PREFIX`. -/
def tenantsPathPrefix : String := "/api/v1/tenants/"

/-- `extract_tenant_slug`. -/
def extractTenantSlug (path : String) : Option String :=
  let afterPrefix := stripPrefix tenantsPathPrefix.toList path.toList
  let withoutLeadingSlash := stripPrefix ['/'] afterPrefix
  let slug := withoutLeadingSlash.takeWhile (· ≠ '/')
  if slug = [] then none else some (String.ofList slug)

/-- Segments are joined as the router cuts them. -/
lemma intercalate_cons {x : List Char} {xs : List (List Char)} :
    ['/'].intercalate (x :: xs) = x ++ xs.flatMap ('/' :: ·) := by
  induction xs generalizing x with
  | nil => simp
  | cons y ys ih =>
    rw [List.intercalate_cons_cons, ih, List.flatMap_cons]
    simp

/-- A fixed segment. -/
lemma Segment.matchAll_lit {text : String} {route : List Segment} {path : List (List Char)}
    {raw : List (String × List Char)} :
    matchAll (.lit text :: route) path = some raw ↔
      ∃ rest, path = text.toList :: rest ∧ matchAll route rest = some raw := by
  cases path with
  | nil => simp [matchAll]
  | cons x path =>
    show (if x = text.toList then matchAll route path else none) = some raw ↔ _
    split
    · rename_i hx
      subst hx
      simp
    · rename_i hx
      simp [hx]

/-- A parameter. -/
lemma Segment.matchAll_param {name : String} {route : List Segment} {path : List (List Char)}
    {raw : List (String × List Char)} :
    matchAll (.param name :: route) path = some raw ↔ ∃ x rest params, path = x :: rest ∧ x ≠ [] ∧
      matchAll route rest = some params ∧ raw = (name, x) :: params := by
  cases path with
  | nil => simp [matchAll]
  | cons x path =>
    show (if x = [] then none else (matchAll route path).map ((name, x) :: ·)) = some raw ↔ _
    split
    · rename_i hx
      simp [hx]
    · rename_i hx
      simp [hx, eq_comm]

/-- The routes begin with the slug; what follows it in a path does not begin with `v`. -/
lemma memberRequiredRoutes_spec {route : List Segment} {takes : List SlugParam}
    (h : (route, takes) ∈ memberRequiredRoutes) :
    ∃ tail, route = .param "tenant_slug" :: tail ∧ ∀ path raw, Segment.matchAll tail path = some raw →
      ∀ more, path.flatMap ('/' :: ·) ≠ '/' :: 'v' :: more := by
  have hlit : ∀ (text : String) (tail : List Segment), text.toList ≠ [] →
      text.toList.head? ≠ some 'v' → ∀ path raw,
        Segment.matchAll (.lit text :: tail) path = some raw →
          ∀ more, path.flatMap ('/' :: ·) ≠ '/' :: 'v' :: more := by
    intro text tail hne hhead path raw hmatch more heq
    obtain ⟨rest, rfl, -⟩ := Segment.matchAll_lit.mp hmatch
    obtain ⟨c, cs, hcs⟩ := List.exists_cons_of_ne_nil hne
    rw [List.flatMap_cons, hcs] at heq
    rw [hcs] at hhead
    exact hhead (congrArg some (List.cons.inj (List.cons.inj heq).2).1)
  have hend : ∀ path raw, Segment.matchAll [] path = some raw →
      ∀ more, path.flatMap ('/' :: ·) ≠ '/' :: 'v' :: more := by
    intro path raw hmatch more heq
    cases path with
    | nil => cases heq
    | cons x path => cases hmatch
  simp only [memberRequiredRoutes, List.mem_cons, List.not_mem_nil, or_false, Prod.mk.injEq] at h
  rcases h with ⟨rfl, -⟩ | ⟨rfl, -⟩ | ⟨rfl, -⟩ | ⟨rfl, -⟩ | ⟨rfl, -⟩ | ⟨rfl, -⟩ | ⟨rfl, -⟩
  · exact ⟨_, rfl, hend⟩
  all_goals exact ⟨_, rfl, hlit _ _ (by decide) (by decide)⟩

/-- A path that matches a route: the prefix, the slug, and the rest. -/
lemma toList_of_match {tail : List Segment} {path : String} {raw : List (String × List Char)}
    (h : rawParams (.param "tenant_slug" :: tail) path = some raw) :
    ∃ slug rest params, raw = ("tenant_slug", slug) :: params ∧ slug ≠ [] ∧ '/' ∉ slug ∧
      Segment.matchAll tail rest = some params ∧
        path.toList = tenantsPathPrefix.toList ++ (slug ++ rest.flatMap ('/' :: ·)) := by
  have hjoin : ['/'].intercalate (path.toList.splitOn '/') = path.toList := List.intercalate_splitOn '/'
  have hpieces : ∀ piece ∈ path.toList.splitOn '/', '/' ∉ piece := fun _ => not_mem_of_mem_splitOn
  unfold rawParams nestedBelow at h
  obtain ⟨below, hroot, h₁⟩ := Segment.matchAll_lit.mp h
  obtain ⟨_, rfl, h₂⟩ := Segment.matchAll_lit.mp h₁
  obtain ⟨_, rfl, h₃⟩ := Segment.matchAll_lit.mp h₂
  obtain ⟨_, rfl, h₄⟩ := Segment.matchAll_lit.mp h₃
  obtain ⟨slug, rest, params, rfl, hne, htail, rfl⟩ := Segment.matchAll_param.mp h₄
  rw [hroot] at hjoin hpieces
  refine ⟨slug, rest, params, rfl, hne, hpieces slug (by simp), htail, ?_⟩
  rw [← hjoin, intercalate_cons]
  rfl

/-- Nothing is stripped from a text without the prefix. -/
lemma stripPrefix_of_not {start text : List Char} (h : ∀ rest, text ≠ start ++ rest) :
    stripPrefix start text = text := by
  unfold stripPrefix
  refine if_neg fun hprefix => ?_
  obtain ⟨rest, hrest⟩ := List.isPrefixOf_iff_prefix.mp hprefix
  exact h rest hrest.symm

/-- A prefix is stripped. -/
lemma stripPrefix_append {start rest : List Char} : stripPrefix start (start ++ rest) = rest := by
  unfold stripPrefix
  rw [if_pos (List.isPrefixOf_iff_prefix.mpr (List.prefix_append start rest)), List.drop_left]

/-- **The slug of a path** is what the router takes for its parameter, whether the path is seen with
the prefix of the routes or without it. -/
lemma extractTenantSlug_of_match {route : List Segment} {takes : List SlugParam}
    {path seen : String} {raw : List (String × List Char)}
    (hroute : (route, takes) ∈ memberRequiredRoutes) (hmatch : rawParams route path = some raw)
    (hseen : seen = path ∨ seen = nestedPath path) :
    ∃ slug rest, raw = ("tenant_slug", slug) :: rest ∧
      extractTenantSlug seen = some (String.ofList slug) := by
  obtain ⟨tail, rfl, hv⟩ := memberRequiredRoutes_spec hroute
  obtain ⟨slug, rest, params, rfl, hne, hslash, htail, hpath⟩ := toList_of_match hmatch
  refine ⟨slug, params, rfl, ?_⟩
  obtain ⟨c, cs, rfl⟩ := List.exists_cons_of_ne_nil hne
  have hbare : ∀ more, c :: cs ++ rest.flatMap ('/' :: ·) ≠ ['/'] ++ more := fun more heq =>
    hslash ((List.cons.inj heq).1 ▸ List.mem_cons_self)
  have hall : ∀ x ∈ c :: cs, decide (x ≠ '/') = true := fun x hx =>
    decide_eq_true fun heq => hslash (heq ▸ hx)
  have hstop : (rest.flatMap ('/' :: ·)).takeWhile (· ≠ '/') = [] := by
    cases rest with
    | nil => rfl
    | cons x rest => rfl
  have htake : (c :: cs ++ rest.flatMap ('/' :: ·)).takeWhile (· ≠ '/') = c :: cs := by
    rw [List.takeWhile_append_of_pos hall, hstop, List.append_nil]
  have hcut : stripPrefix ['/'] (stripPrefix tenantsPathPrefix.toList seen.toList) =
      c :: cs ++ rest.flatMap ('/' :: ·) := by
    rcases hseen with rfl | rfl
    · rw [hpath, stripPrefix_append, stripPrefix_of_not hbare]
    · have hnested : (nestedPath path).toList = ['/'] ++ (c :: cs ++ rest.flatMap ('/' :: ·)) := by
        unfold nestedPath
        rw [String.toList_ofList, hpath]
        rfl
      have hother : ∀ more, (nestedPath path).toList ≠ tenantsPathPrefix.toList ++ more := by
        -- the slug would be `api`, and `v1` would follow it
        intro more heq
        have hrest : c :: cs ++ rest.flatMap ('/' :: ·) = "api".toList ++ '/' :: 'v' ::
            ("1/tenants/".toList ++ more) := (List.cons.inj (hnested.symm.trans heq)).2
        have hslug : c :: cs = "api".toList := by
          have hsame := congrArg (List.takeWhile (· ≠ '/')) hrest
          rw [htake] at hsame
          exact hsame
        rw [hslug] at hrest
        exact hv rest params htail _ (List.append_cancel_left hrest)
      rw [stripPrefix_of_not hother, hnested, stripPrefix_append]
  unfold extractTenantSlug
  dsimp only
  rw [hcut, htake, if_neg (List.cons_ne_nil c cs)]

/-! ## The middleware -/

/-- Errors of the middleware and of the extractor. -/
inductive TenantRouteError where
  /-- The request is not valid. -/
  | badRequest (message : String)
  /-- The request is not authenticated. -/
  | unauthorized (message : String)
  /-- There is no such tenant. -/
  | notFound (message : String)
  /-- An error of the tenant service. -/
  | tenant (e : TenantError)

/-- An execution context with an active tenant. -/
structure TenantContext where
  /-- Who issues the request. -/
  ctx : ExecutionContext
  /-- The active tenant. -/
  tenantId : TenantId

variable [Unicode]

/-- Parse a slug and look the tenant up. -/
def resolveSlug (slug : String) : Action TenantRouteError Tenant := do
  let slug ← .done ((TenantSlug.parse slug).mapError fun e => .badRequest e.text)
  let tenant ← (TenantService.getBySlug slug).mapErr .tenant
  .ofOption (.notFound ("Tenant not found: " ++ slug.text)) tenant

omit [Unicode] in
/-- Ensure that a user is a member of a tenant. -/
def TenantService.ensureMember (t : TenantId) (u : UserId) : Action TenantError Unit := do
  let membership ← (PgMembershipRepository.find t u).mapErr .domain
  match membership with
  | some _ => return ()
  | none => .fail .notMember

/-- `require_tenant_membership`: the context of the request, if the actor is a member of the tenant
that its path names. -/
def requireTenantMembership (ctx : Option ExecutionContext) (path : String) :
    Action TenantRouteError TenantContext := do
  let ctx ← .ofOption (.unauthorized "Authentication required") ctx
  let actorId ← .ofOption (.unauthorized "Authentication required") ctx.actorId
  let slug ← .ofOption (.badRequest "Missing tenant slug") (extractTenantSlug path)
  let tenant ← resolveSlug slug
  (TenantService.ensureMember tenant.id ⟨actorId⟩).mapErr .tenant
  return { ctx, tenantId := tenant.id }

/-- The extractor of the active tenant. -/
def TenantContext.fromRequestParts (ctx : Option ExecutionContext) (params : Except String Params) :
    Action TenantRouteError TenantContext := do
  let ctx ← .ofOption (.unauthorized "Authentication required") ctx
  let params ← .done (params.mapError fun name => .badRequest ("Invalid UTF-8 in `" ++ name ++ "`"))
  let slug ← .ofOption (.badRequest "Missing tenant slug") (params.lookup "tenant_slug")
  let tenant ← resolveSlug slug
  return { ctx, tenantId := tenant.id }

end Klynt
