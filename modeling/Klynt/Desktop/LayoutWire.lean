import Klynt.Lib.Wire
import Klynt.Desktop.Layout

set_option relaxedAutoImplicit false
set_option autoImplicit false

/-!
# Layouts on the way to the server and back

The client sends a layout as a document whose keys are converted, and the server reads a payload
from it; the answer is a document again, whose keys are converted back.

## Main definitions

* `KeyConversion`, `KeyConversion.Documented` — the library that converts keys.
* `requestBody`, `parsePayload` — what the client sends, and what the server reads.
* `responseBody`, `readLayout` — what the server answers, and what the client takes it to be.
* `Accepted` — the server reads a layout, and gives it back as it is.

## Main results

* `readLayout_responseBody` — the client gets a stored layout as `DesktopLayout.ofStored`.
* `accepted_layout_iff` — the layout of a desktop is accepted exactly if all coordinates of its
  windows are 32-bit integers.
-/

namespace Klynt

open Wire

/-! ## Keys -/

/-- The library that converts the keys of documents. -/
structure KeyConversion where
  /-- `camelize`. -/
  camelize : String → String
  /-- `decamelize`. -/
  decamelize : String → String

/-- Keys of one word. -/
def plainKeys : List String :=
  ["success", "data", "message", "id", "scope", "version", "icons", "windows", "etag", "x", "y",
    "width", "height", "state"]

/-- What is documented of the library: words are separated by underscores, or by capitals. -/
structure KeyConversion.Documented (humps : KeyConversion) : Prop where
  /-- One word. -/
  camelize_plain : ∀ k ∈ plainKeys, humps.camelize k = k
  /-- One word. -/
  decamelize_plain : ∀ k ∈ plainKeys, humps.decamelize k = k
  /-- Two words. -/
  camelize_appId : humps.camelize "app_id" = "appId"
  /-- Two words. -/
  decamelize_appId : humps.decamelize "appId" = "app_id"
  /-- Three words. -/
  camelize_backgroundPresetId : humps.camelize "background_preset_id" = "backgroundPresetId"
  /-- Three words. -/
  decamelize_backgroundPresetId : humps.decamelize "backgroundPresetId" = "background_preset_id"
  /-- Two words. -/
  camelize_tenantId : humps.camelize "tenant_id" = "tenantId"
  /-- Two words. -/
  camelize_userId : humps.camelize "user_id" = "userId"

/-! ## The request -/

/-- An icon, as the client sends it. -/
def LayoutIcon.body (icon : LayoutIcon) : Wire :=
  .obj [("appId", .str icon.appId), ("x", .num icon.x), ("y", .num icon.y)]

/-- A window, as the client sends it. -/
def LayoutWindow.body (w : LayoutWindow) : Wire :=
  .obj [("appId", .str w.appId), ("x", .num w.x), ("y", .num w.y), ("width", .num w.width),
    ("height", .num w.height), ("state", .str w.state.text)]

/-- `{ ...layout, etag }`. -/
def requestBody (layout : DesktopLayout) (etag : String) : Wire :=
  .obj ([("version", .num layout.version),
      ("backgroundPresetId", .str layout.backgroundPresetId)] ++
    (layout.icons.toList.map fun icons => ("icons", .arr (icons.map LayoutIcon.body))) ++
    [("windows", .arr (layout.windows.map LayoutWindow.body)), ("etag", .str etag)])

/-- A `DesktopIcon`, read from a document. -/
def parseIcon (w : Wire) : Option DesktopIcon := do
  let appId ← (← w.field "app_id").asString
  let x ← (← w.field "x").asI32
  let y ← (← w.field "y").asI32
  return { appId, x, y }

/-- A `DesktopWindow`, read from a document. -/
def parseWindow (w : Wire) : Option DesktopWindow := do
  let appId ← (← w.field "app_id").asString
  let x ← (← w.field "x").asI32
  let y ← (← w.field "y").asI32
  let width ← (← w.field "width").asI32
  let height ← (← w.field "height").asI32
  let state ← (← w.field "state").asString
  return { appId, x, y, width, height, state }

/-- A `LayoutPayload`, read from a document. -/
def parsePayload (w : Wire) : Option LayoutPayload := do
  let version ← (← w.field "version").asI32
  let backgroundPresetId ← (← w.field "background_preset_id").asString
  let icons ← (← w.field "icons").asList parseIcon
  let windows ← (← w.field "windows").asList parseWindow
  let etag ← (← w.field "etag").asString
  return { version, backgroundPresetId, icons, windows, etag }

/-! ## The answer -/

/-- A `DesktopIcon` as a document. -/
def DesktopIcon.body (icon : DesktopIcon) : Wire :=
  .obj [("app_id", .str icon.appId), ("x", .num icon.x), ("y", .num icon.y)]

/-- A `DesktopWindow` as a document. -/
def DesktopWindow.body (w : DesktopWindow) : Wire :=
  .obj [("app_id", .str w.appId), ("x", .num w.x), ("y", .num w.y), ("width", .num w.width),
    ("height", .num w.height), ("state", .str w.state)]

/-- A `LayoutResponse` as a document. -/
def layoutResponse (layout : TenantDesktopLayout) : Wire :=
  .obj [("id", .str layout.id.render), ("tenant_id", .str layout.tenantId.render),
    ("scope", .str layout.scope.text),
    ("user_id", (layout.userId.map fun u => Wire.str u.render).getD .null),
    ("version", .num layout.version), ("background_preset_id", .str layout.backgroundPresetId),
    ("icons", .arr (layout.icons.map DesktopIcon.body)),
    ("windows", .arr (layout.windows.map DesktopWindow.body)), ("etag", .str layout.etag)]

/-- `SuccessResponse::ok (LayoutResponse::from (layout))`. -/
def responseBody (layout : TenantDesktopLayout) : Wire :=
  .obj [("success", .bool true), ("data", layoutResponse layout), ("message", .null)]

/-- An icon, as the client takes it. -/
def readIcon (w : Wire) : Option LayoutIcon := do
  let appId ← (← w.field "appId").asString
  let x ← (← w.field "x").asNumber
  let y ← (← w.field "y").asNumber
  return { appId, x, y }

/-- A window, as the client takes it. -/
def readWindow (w : Wire) : Option LayoutWindow := do
  let appId ← (← w.field "appId").asString
  let x ← (← w.field "x").asNumber
  let y ← (← w.field "y").asNumber
  let width ← (← w.field "width").asNumber
  let height ← (← w.field "height").asNumber
  let state ← (← w.field "state").asString
  return { appId, x, y, width, height, state := .ofText state }

/-- The layout that the client takes from an answer. -/
def readLayout (w : Wire) : Option DesktopLayout := do
  let data ← w.field "data"
  let version ← (← data.field "version").asNumber
  let backgroundPresetId ← (← data.field "backgroundPresetId").asString
  let icons ← (← data.field "icons").asList readIcon
  let windows ← (← data.field "windows").asList readWindow
  return { version, backgroundPresetId, icons := some icons, windows }

/-- The server reads a layout and gives it back as it is, whatever etag is sent with it, and
whatever ids the server draws. -/
def Accepted (humps : KeyConversion) (layout : DesktopLayout) : Prop :=
  ∀ etag, ∃ payload, parsePayload ((requestBody layout etag).convertKeys humps.decamelize) =
      some payload ∧ payload.etag = etag ∧
    ∀ tenantId id fresh, readLayout ((responseBody
      (buildLayout tenantId .shared none payload id fresh)).convertKeys humps.camelize) = some layout

/-! ## What comes back -/

variable {humps : KeyConversion}

/-- A stored icon comes back. -/
lemma readIcon_body (h : humps.Documented) (icon : DesktopIcon) :
    readIcon (icon.body.convertKeys humps.camelize) = some (.ofStored icon) := by
  have hx := h.camelize_plain "x" (by decide)
  have hy := h.camelize_plain "y" (by decide)
  simp [readIcon, DesktopIcon.body, convertKeys, convertMembers, field, asString, asNumber, hx, hy,
    h.camelize_appId, LayoutIcon.ofStored]

/-- A stored window comes back. -/
lemma readWindow_body (h : humps.Documented) (w : DesktopWindow) :
    readWindow (w.body.convertKeys humps.camelize) = some (.ofStored w) := by
  have hx := h.camelize_plain "x" (by decide)
  have hy := h.camelize_plain "y" (by decide)
  have hwidth := h.camelize_plain "width" (by decide)
  have hheight := h.camelize_plain "height" (by decide)
  have hstate := h.camelize_plain "state" (by decide)
  simp [readWindow, DesktopWindow.body, convertKeys, convertMembers, field, asString, asNumber, hx,
    hy, hwidth, hheight, hstate, h.camelize_appId, LayoutWindow.ofStored]

/-- **A stored layout comes back** as the client's view of it. -/
lemma readLayout_responseBody (h : humps.Documented) (layout : TenantDesktopLayout) :
    readLayout ((responseBody layout).convertKeys humps.camelize) = some (.ofStored layout) := by
  have hplain : ∀ k ∈ plainKeys, humps.camelize k = k := h.camelize_plain
  simp only [plainKeys, List.forall_mem_cons] at hplain
  obtain ⟨hsuccess, hdata, hmessage, hid, hscope, hversion, hicons, hwindows, hetag, -⟩ := hplain
  have hreadIcons := asList_map_of_eq (readIcon_body h) layout.icons
  have hreadWindows := asList_map_of_eq (readWindow_body h) layout.windows
  simp [readLayout, responseBody, layoutResponse, convertKeys, convertMembers, field, asString,
    asNumber, hsuccess, hdata, hmessage, hid, hscope, hversion, hicons, hwindows, hetag,
    h.camelize_tenantId, h.camelize_userId, h.camelize_backgroundPresetId]
  rw [convertItems_map, convertItems_map, hreadIcons, hreadWindows]
  rfl

/-! ## What the server reads -/

/-- All coordinates are 32-bit integers. -/
def WindowGeometry.Whole (g : WindowGeometry) : Prop :=
  IsI32 g.x ∧ IsI32 g.y ∧ IsI32 g.width ∧ IsI32 g.height

instance (g : WindowGeometry) : Decidable g.Whole := inferInstanceAs (Decidable (_ ∧ _ ∧ _ ∧ _))

/-- A window as it is stored. -/
def LayoutWindow.stored (w : LayoutWindow) : DesktopWindow :=
  { appId := w.appId, x := w.x.num, y := w.y.num, width := w.width.num, height := w.height.num
    state := w.state.text }

/-- A whole window is stored as it is. -/
lemma LayoutWindow.ofStored_stored {w : LayoutWindow} (h : w.Whole) : .ofStored w.stored = w := by
  obtain ⟨⟨x, y, width, height⟩, appId, state⟩ := w
  obtain ⟨⟨hx, -⟩, ⟨hy, -⟩, ⟨hwidth, -⟩, ⟨hheight, -⟩⟩ := h
  unfold ofStored stored
  simp only [WindowState.ofText_text, Rat.coe_int_num_of_den_eq_one hx,
    Rat.coe_int_num_of_den_eq_one hy, Rat.coe_int_num_of_den_eq_one hwidth,
    Rat.coe_int_num_of_den_eq_one hheight]

/-- Four numbers that are read one after the other. -/
lemma bind_isI32 {α : Type} (g : WindowGeometry) (f : ℤ → ℤ → ℤ → ℤ → α) :
    ((asI32 (.num g.x)).bind fun x => (asI32 (.num g.y)).bind fun y =>
      (asI32 (.num g.width)).bind fun width => (asI32 (.num g.height)).bind fun height =>
        some (f x y width height)) =
      if g.Whole then some (f g.x.num g.y.num g.width.num g.height.num) else none := by
  unfold asI32 WindowGeometry.Whole
  by_cases hx : IsI32 g.x
  · by_cases hy : IsI32 g.y
    · by_cases hwidth : IsI32 g.width
      · by_cases hheight : IsI32 g.height
        · simp [hx, hy, hwidth, hheight]
        · simp [hheight]
      · simp [hwidth]
    · simp [hy]
  · simp [hx]

/-- The server reads a window exactly if it is whole. -/
lemma parseWindow_body (h : humps.Documented) (w : LayoutWindow) :
    parseWindow (w.body.convertKeys humps.decamelize) = if w.Whole then some w.stored else none := by
  have hx := h.decamelize_plain "x" (by decide)
  have hy := h.decamelize_plain "y" (by decide)
  have hwidth := h.decamelize_plain "width" (by decide)
  have hheight := h.decamelize_plain "height" (by decide)
  have hstate := h.decamelize_plain "state" (by decide)
  refine Eq.trans ?_ (bind_isI32 w.toWindowGeometry fun x y width height =>
    (⟨w.appId, x, y, width, height, w.state.text⟩ : DesktopWindow))
  simp [parseWindow, LayoutWindow.body, convertKeys, convertMembers, field, asString, hx, hy, hwidth,
    hheight, hstate, h.decamelize_appId]

/-- The payload that the server reads from the layout of a desktop. -/
lemma parsePayload_layout (h : humps.Documented) (config : DesktopConfig)
    (env : DesktopEnvironment) (etag : String) :
    parsePayload ((requestBody (env.layout config) etag).convertKeys humps.decamelize) =
      if ∀ w ∈ (env.layout config).windows, w.Whole then
        some { version := 1, backgroundPresetId := env.backgroundPresetId, icons := []
               windows := (env.layout config).windows.map LayoutWindow.stored, etag }
      else none := by
  have hversion := h.decamelize_plain "version" (by decide)
  have hicons := h.decamelize_plain "icons" (by decide)
  have hwindows := h.decamelize_plain "windows" (by decide)
  have hetag := h.decamelize_plain "etag" (by decide)
  have hone : asI32 (.num 1) = some 1 := by decide +kernel
  have hread := asList_map (parseWindow_body h) (env.layout config).windows
  have hparse : parsePayload ((requestBody (env.layout config) etag).convertKeys humps.decamelize) =
      (asList parseWindow (.arr (convertItems humps.decamelize
        ((env.layout config).windows.map LayoutWindow.body)))).bind fun windows =>
          some { version := 1, backgroundPresetId := env.backgroundPresetId, icons := []
                 windows, etag } := by
    simp [parsePayload, requestBody, DesktopEnvironment.layout, convertKeys, convertMembers,
      convertItems, field, asString, asList, hversion, hicons, hwindows, hetag, hone,
      h.decamelize_backgroundPresetId]
  rw [hparse, convertItems_map, hread]
  split <;> rfl

/-- **The server accepts the layout of a desktop exactly if all coordinates of its windows are
32-bit integers.** -/
theorem accepted_layout_iff (h : humps.Documented) (config : DesktopConfig)
    (env : DesktopEnvironment) : Accepted humps (env.layout config) ↔
      ∀ w ∈ env.windows.desktopWindows config.id, w.Whole := by
  have hwindows : (∀ w ∈ (env.layout config).windows, w.Whole) ↔
      ∀ w ∈ env.windows.desktopWindows config.id, w.Whole := List.forall_mem_map
  rw [← hwindows]
  constructor
  · intro haccepted
    obtain ⟨payload, hparse, -⟩ := haccepted ""
    rw [parsePayload_layout h] at hparse
    by_contra hnot
    rw [if_neg hnot] at hparse
    cases hparse
  · intro hwhole etag
    refine ⟨_, (parsePayload_layout h config env etag).trans (if_pos hwhole), rfl, ?_⟩
    intro tenantId id fresh
    rw [readLayout_responseBody h]
    refine congrArg some ?_
    have hsame : ((env.layout config).windows.map LayoutWindow.stored).map LayoutWindow.ofStored =
        (env.layout config).windows := by
      rw [List.map_map]
      exact (List.map_congr_left fun w hw => LayoutWindow.ofStored_stored (hwhole w hw)).trans
        (List.map_id _)
    exact congrArg (fun windows => { env.layout config with windows }) hsame

end Klynt
