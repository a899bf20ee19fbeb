import Klynt.Desktop.ZOrder
import Klynt.Service.DesktopLayout

set_option relaxedAutoImplicit false
set_option autoImplicit false

/-!
# Loading and saving a desktop

A desktop loads its layout when it is shown, and saves what it shows whenever that changes.

## Main definitions

* `DesktopLayout` — a layout as the client holds it.
* `DesktopConfig`, `DesktopEnvironment` — a desktop, and the state of the component that shows it.
* `DesktopEnvironment.load`, `DesktopEnvironment.save?` — the effects.

## Main results

* `desktopWindows_openStored` — the windows of a layout are opened as they were stored.
* `saved_unchanged_iff` — opening a desktop leaves the stored layout as it is exactly if the
  layout has no icons.
* `saved_without_icons` — a layout that loses its icon.
-/

namespace Klynt

/-! ## Layouts -/

/-- An icon of a layout. -/
structure LayoutIcon where
  /-- The app. -/
  appId : String
  /-- The left edge. -/
  x : ℚ
  /-- The upper edge. -/
  y : ℚ
  deriving DecidableEq

/-- A window of a layout. -/
structure LayoutWindow extends WindowGeometry where
  /-- The app. -/
  appId : String
  /-- The state. -/
  state : WindowState
  deriving DecidableEq

/-- A layout. -/
structure DesktopLayout where
  /-- The version of the format. -/
  version : ℚ
  /-- The background. -/
  backgroundPresetId : String
  /-- The icons, if there are any. -/
  icons : Option (List LayoutIcon)
  /-- The windows. -/
  windows : List LayoutWindow
  deriving DecidableEq

/-- An icon of a stored layout, as the client gets it. -/
def LayoutIcon.ofStored (icon : DesktopIcon) : LayoutIcon :=
  { appId := icon.appId, x := icon.x, y := icon.y }

/-- A window of a stored layout, as the client gets it. -/
def LayoutWindow.ofStored (w : DesktopWindow) : LayoutWindow :=
  { appId := w.appId, x := w.x, y := w.y, width := w.width, height := w.height,
    state := .ofText w.state }

/-- A stored layout, as the client gets it. -/
def DesktopLayout.ofStored (layout : TenantDesktopLayout) : DesktopLayout :=
  { version := layout.version, backgroundPresetId := layout.backgroundPresetId,
    icons := some (layout.icons.map .ofStored), windows := layout.windows.map .ofStored }

/-- What a layout keeps of an open window. -/
def Window.saved (w : Window) : LayoutWindow :=
  { w.toWindowGeometry with appId := w.appId, state := w.state }

/-- What the loader prescribes of a window. -/
def LayoutWindow.prescribed (w : LayoutWindow) : PartialWindow :=
  { x := some w.x, y := some w.y, width := some w.width, height := some w.height
    state := some w.state }

/-! ## The component -/

/-- The app a desktop opens when it has no layout. -/
structure DefaultApp where
  /-- The app. -/
  id : String
  /-- The width. -/
  width : ℚ
  /-- The height. -/
  height : ℚ

/-- A desktop. -/
structure DesktopConfig where
  /-- Identifier. -/
  id : String
  /-- The background it has at first. -/
  presetId : String
  /-- Whether it shows a single app. -/
  singleApp : Bool
  /-- The app it opens when it has no layout. -/
  defaultApp : Option DefaultApp
  /-- Whether the user can edit it. -/
  canEdit : Bool

/-- The answer to a request for the layout. -/
inductive LoadResult where
  /-- The layout, if there is one. -/
  | ok (layout : Option DesktopLayout)
  /-- The request failed. -/
  | failed

/-- The state of the component that shows a desktop, with the windows. -/
structure DesktopEnvironment where
  /-- The windows of all desktops. -/
  windows : WindowManagerState
  /-- The background. -/
  backgroundPresetId : String
  /-- Whether the layout is awaited. -/
  isLoading : Bool
  /-- Whether the browser window is too small for a desktop. -/
  isBelowLg : Bool

/-- The windows of a layout are opened, in their order.  `freshId` are the generated ids. -/
def openStored (config : DesktopConfig) (viewport : Viewport) :
    List LayoutWindow → (ℕ → String) → WindowManagerState → WindowManagerState
  | [], _, s => s
  | w :: ws, freshId, s =>
    openStored config viewport ws (fun n => freshId (n + 1))
      (s.openApp config.id viewport (freshId 0) w.appId w.prescribed)

namespace DesktopEnvironment

variable (config : DesktopConfig) (env : DesktopEnvironment)

/-- Nothing is loaded or saved where the browser window is too small for the desktop. -/
def suspended : Bool := env.isBelowLg && !config.singleApp

/-- The component when it is first shown. -/
def mounted (windows : WindowManagerState) (isBelowLg : Bool) : DesktopEnvironment :=
  { windows, backgroundPresetId := config.presetId, isLoading := true, isBelowLg }

/-- `load`, when the answer arrives. -/
def load (viewport : Viewport) (freshId : ℕ → String) (result : LoadResult) : DesktopEnvironment :=
  match result with
  | .failed => { env with isLoading := false }
  | .ok (some layout) =>
    { env with
      backgroundPresetId := layout.backgroundPresetId
      windows := openStored config viewport layout.windows freshId env.windows
      isLoading := false }
  | .ok none =>
    match config.defaultApp with
    | some app =>
      { env with
        windows := env.windows.openApp config.id viewport (freshId 0) app.id
          { PartialWindow.none with width := some app.width, height := some app.height }
        isLoading := false }
    | none => { env with isLoading := false }

/-- `layout` of the effect that saves. -/
def layout : DesktopLayout :=
  { version := 1, backgroundPresetId := env.backgroundPresetId, icons := some []
    windows := (env.windows.desktopWindows config.id).map Window.saved }

/-- The layout that is saved, if any is. -/
def save? : Option DesktopLayout :=
  if env.isLoading then none
  else if env.suspended config then none
  else if !config.canEdit then none
  else some (env.layout config)

/-- A desktop that is shown, loaded, and can be edited is saved. -/
lemma save?_eq {config : DesktopConfig} {env : DesktopEnvironment} (hloaded : env.isLoading = false)
    (hshown : env.suspended config = false) (hedit : config.canEdit = true) :
    env.save? config = some (env.layout config) := by
  unfold save?
  simp [hloaded, hshown, hedit]

end DesktopEnvironment

/-! ## Opening what was stored -/

open WindowManagerState

/-- The windows that are saved after an app was opened that had none. -/
lemma desktopWindows_openApp {s : WindowManagerState} {d : String} {w : LayoutWindow}
    (viewport : Viewport) (freshId : String) (hnew : ∀ v ∈ s.desktopWindows d, v.appId ≠ w.appId) :
    ((s.openApp d viewport freshId w.appId w.prescribed).desktopWindows d).map Window.saved =
      (s.desktopWindows d).map Window.saved ++ [w] := by
  have hfind : (s.desktopWindows d).find? (·.appId = w.appId) = none :=
    List.find?_eq_none.mpr fun v hv => by simpa using hnew v hv
  unfold openApp
  rw [hfind]
  refine (map_maybeCompact_of_eq fun _ _ => rfl).trans ?_
  refine (congrArg (List.map Window.saved) (desktopWindows_setWindows.trans (if_pos rfl))).trans ?_
  rw [List.map_append]
  rfl

/-- **The windows of a layout** are opened as they were stored, if their apps are distinct and
none of them is open. -/
lemma desktopWindows_openStored (config : DesktopConfig) (viewport : Viewport)
    (ws : List LayoutWindow) (freshId : ℕ → String) (s : WindowManagerState)
    (happs : (((s.desktopWindows config.id).map Window.saved ++ ws).map (·.appId)).Nodup) :
    ((openStored config viewport ws freshId s).desktopWindows config.id).map Window.saved =
      (s.desktopWindows config.id).map Window.saved ++ ws := by
  induction ws generalizing freshId s with
  | nil =>
    rw [List.append_nil]
    rfl
  | cons w ws ih =>
    have hnew : ∀ v ∈ s.desktopWindows config.id, v.appId ≠ w.appId := by
      intro v hv heq
      rw [List.map_append, List.map_cons] at happs
      have hmem : w.appId ∈ ((s.desktopWindows config.id).map Window.saved).map (·.appId) :=
        List.mem_map.mpr ⟨v.saved, List.mem_map_of_mem hv, heq⟩
      exact (List.nodup_append.mp happs).2.2 _ hmem _ List.mem_cons_self rfl
    have hopened := desktopWindows_openApp viewport (freshId 0) hnew
    refine (ih _ _ ?_).trans ?_
    · rw [hopened, List.append_assoc]
      exact happs
    · rw [hopened, List.append_assoc]
      rfl

/-- The icons and the windows and the background of a layout. -/
def DesktopLayout.SameDesktop (layout layout' : DesktopLayout) : Prop :=
  layout.backgroundPresetId = layout'.backgroundPresetId ∧ layout.icons = layout'.icons ∧
    layout.windows = layout'.windows

/-- **Opening a desktop leaves the stored layout as it is exactly if the layout has no icons.**
The client keeps no icons, and saves none.

**Proof sketch.** The windows are opened one after the other, each as a new one because apps are
distinct, with everything prescribed that is saved; so the same windows are saved in the same
order.  The background is set and saved. -/
theorem saved_unchanged_iff (layout : TenantDesktopLayout) (config : DesktopConfig)
    (viewport : Viewport) (freshId : ℕ → String) (env : DesktopEnvironment)
    (hfresh : env.windows.desktopWindows config.id = [])
    (happs : (layout.windows.map (·.appId)).Nodup) (hshown : env.suspended config = false)
    (hedit : config.canEdit = true) :
    ∃ saved, (env.load config viewport freshId (.ok (some (.ofStored layout)))).save? config =
        some saved ∧
      (saved.SameDesktop (.ofStored layout) ↔ layout.icons = []) := by
  have hopened := desktopWindows_openStored config viewport (layout.windows.map .ofStored)
    freshId env.windows (by
      rw [hfresh, List.map_nil, List.nil_append, List.map_map]
      exact happs)
  rw [hfresh, List.map_nil, List.nil_append] at hopened
  refine ⟨_, DesktopEnvironment.save?_eq rfl hshown hedit, ?_⟩
  constructor
  · rintro ⟨-, hicons, -⟩
    exact List.map_eq_nil_iff.mp (Option.some.inj hicons).symm
  · intro hicons
    refine ⟨rfl, ?_, hopened⟩
    show some [] = some (layout.icons.map LayoutIcon.ofStored)
    rw [hicons]
    rfl

namespace Scenario

/-- A desktop that its user can edit. -/
def desktop : DesktopConfig :=
  { id := "tenant:acme", presetId := "fabric", singleApp := false, defaultApp := none,
    canEdit := true }

/-- A stored layout with a window. -/
def windowLayout : TenantDesktopLayout :=
  { id := 1, tenantId := 2, scope := .shared, userId := none, version := 1,
    backgroundPresetId := "dunes", icons := [],
    windows := [⟨"notes", 10, 20, 300, 200, "minimized"⟩], etag := "e1" }

/-- A stored layout with an icon. -/
def iconLayout : TenantDesktopLayout := { windowLayout with icons := [⟨"notes", 10, 20⟩] }

end Scenario

open Scenario

/-- Opening a desktop with a window out of sight. -/
theorem saved_unchanged_window :
    ∃ saved, ((DesktopEnvironment.mounted desktop initialState false).load desktop viewport
        (fun _ => "w1") (.ok (some (.ofStored windowLayout)))).save? desktop = some saved ∧
      (saved.SameDesktop (.ofStored windowLayout) ↔ windowLayout.icons = []) :=
  saved_unchanged_iff windowLayout desktop viewport (fun _ => "w1")
    (.mounted desktop initialState false) rfl (by decide) rfl rfl

/-- **The icons of a layout are lost when its desktop is opened.** -/
theorem saved_without_icons :
    ∃ saved, ((DesktopEnvironment.mounted desktop initialState false).load desktop viewport
        (fun _ => "w1") (.ok (some (.ofStored iconLayout)))).save? desktop = some saved ∧
      ¬ saved.SameDesktop (.ofStored iconLayout) := by
  refine ⟨_, rfl, fun h => ?_⟩
  cases (Option.some.inj h.2.1)

end Klynt
