import Klynt.Domain.Tenant
import Klynt.Lib.Prog

set_option relaxedAutoImplicit false
set_option autoImplicit false

/-!
# The desktop layout service

Layouts of desktops, one that a tenant's members share and one for each member who overrides it.
The service runs over any repository of layouts; a repository that keeps one layout under each
key is given as an environment.

## Main definitions

* `TenantDesktopLayout`, `LayoutKey` — a layout, and the key it is stored under.
* `TenantDesktopLayoutService.updateShared`, … — the use cases.
* `buildLayout` — the layout a route makes of a payload.
* `Layouts`, `Layouts.Env` — a repository that keeps the last layout of each key.
-/

namespace Klynt

/-! ## Layouts -/

/-- An icon on a desktop. -/
structure DesktopIcon where
  /-- The application. -/
  appId : String
  /-- The horizontal position. -/
  x : Int
  /-- The vertical position. -/
  y : Int
  deriving DecidableEq

/-- A window on a desktop. -/
structure DesktopWindow where
  /-- The application. -/
  appId : String
  /-- The horizontal position. -/
  x : Int
  /-- The vertical position. -/
  y : Int
  /-- The width. -/
  width : Int
  /-- The height. -/
  height : Int
  /-- The state. -/
  state : String
  deriving DecidableEq

/-- Whose layout it is. -/
inductive LayoutScope where
  /-- All members of the tenant. -/
  | shared
  /-- One user. -/
  | user
  deriving DecidableEq

/-- `LayoutScope::as_str`. -/
def LayoutScope.text : LayoutScope → String
  | shared => "shared"
  | user => "user"

/-- A layout of a tenant's desktop. -/
structure TenantDesktopLayout where
  /-- Identifier. -/
  id : Uuid
  /-- The tenant. -/
  tenantId : Uuid
  /-- Whose layout it is. -/
  scope : LayoutScope
  /-- The user, of a layout that is one user's. -/
  userId : Option Uuid
  /-- The version of the format. -/
  version : Int
  /-- The background. -/
  backgroundPresetId : String
  /-- The icons. -/
  icons : List DesktopIcon
  /-- The windows. -/
  windows : List DesktopWindow
  /-- What a client presents to replace the layout. -/
  etag : String
  deriving DecidableEq

/-- What identifies a layout: the tenant, the scope and the user. -/
abbrev LayoutKey : Type := Uuid × LayoutScope × Option Uuid

/-- The key of a layout. -/
def TenantDesktopLayout.key (layout : TenantDesktopLayout) : LayoutKey :=
  (layout.tenantId, layout.scope, layout.userId)

/-! ## The service -/

/-- Requests to a repository of layouts. -/
inductive LayoutReq where
  /-- `find`. -/
  | find (tenantId : Uuid) (scope : LayoutScope) (userId : Option Uuid)
  /-- `upsert`. -/
  | upsert (layout : TenantDesktopLayout)

/-- The answer to a request. -/
def LayoutAns : LayoutReq → Type
  | .find _ _ _ => Except DomainError (Option TenantDesktopLayout)
  | .upsert _ => Except DomainError TenantDesktopLayout

/-- Programs of the service. -/
abbrev LayoutAction (α : Type) : Type := Prog LayoutReq LayoutAns TenantError α

/-- `find` of the repository. -/
def findLayout (tenantId : Uuid) (scope : LayoutScope) (userId : Option Uuid) :
    LayoutAction (Option TenantDesktopLayout) :=
  .ask (.find tenantId scope userId) fun r => .done (Except.mapError .domain r)

/-- `upsert` of the repository. -/
def upsertLayout (layout : TenantDesktopLayout) : LayoutAction TenantDesktopLayout :=
  .ask (.upsert layout) fun r => .done (Except.mapError .domain r)

namespace TenantDesktopLayoutService

/-- Get the shared layout of a tenant. -/
def getShared (tenantId : Uuid) : LayoutAction (Option TenantDesktopLayout) :=
  findLayout tenantId .shared none

/-- Replace the shared layout of a tenant, unless its etag is not the expected one. -/
def updateShared (tenantId : Uuid) (layout : TenantDesktopLayout) (etag : String) :
    LayoutAction TenantDesktopLayout := do
  let current ← findLayout tenantId .shared none
  .rejectIf (current.any (·.etag ≠ etag)) (.domain (.conflict "desktop layout etag mismatch"))
  upsertLayout layout

/-- Get the layout a user has instead of the shared one. -/
def getUserOverride (tenantId userId : Uuid) : LayoutAction (Option TenantDesktopLayout) :=
  findLayout tenantId .user (some userId)

/-- Replace the layout a user has instead of the shared one. -/
def updateUserOverride (layout : TenantDesktopLayout) : LayoutAction TenantDesktopLayout :=
  upsertLayout layout

end TenantDesktopLayoutService

/-- The body of a request to replace a layout. -/
structure LayoutPayload where
  /-- The version of the format. -/
  version : Int
  /-- The background. -/
  backgroundPresetId : String
  /-- The icons. -/
  icons : List DesktopIcon
  /-- The windows. -/
  windows : List DesktopWindow
  /-- The etag of the layout that is to be replaced. -/
  etag : String

/-- `build_layout`: the id and the etag are new UUIDs. -/
def buildLayout (tenantId : Uuid) (scope : LayoutScope) (userId : Option Uuid)
    (payload : LayoutPayload) (id etag : Uuid) : TenantDesktopLayout :=
  { id, tenantId, scope, userId, version := payload.version,
    backgroundPresetId := payload.backgroundPresetId, icons := payload.icons,
    windows := payload.windows, etag := etag.render }

/-! ## A repository -/

/-- A repository with one layout under each key. -/
abbrev Layouts : Type := LayoutKey → Option TenantDesktopLayout

/-- The answers of the repository: `upsert` replaces the layout of its key. -/
def Layouts.answer : (q : LayoutReq) → Layouts → LayoutAns q × Layouts
  | .find tenantId scope userId, s => (.ok (s (tenantId, scope, userId)), s)
  | .upsert layout, s => (.ok layout, Function.update s layout.key (some layout))

/-- How the repository answers. -/
def Layouts.Env (q : LayoutReq) (s : Layouts) (a : LayoutAns q) (s' : Layouts) : Prop :=
  (a, s') = answer q s

end Klynt
