import Mathlib.Algebra.Order.Field.Rat
import Klynt.Lib.Record
import Klynt.Lib.SortRank

set_option relaxedAutoImplicit false
set_option autoImplicit false

/-!
# The window manager

The store of the desktops' windows: which windows are open, which of them is active, and how they
are stacked.  One counter numbers the windows of all desktops from the bottom up; when it passes
a threshold the windows are numbered anew.

## Main definitions

* `Window`, `WindowManagerState` — a window, and the state of the store.
* `WindowManagerState.openApp`, …, `WindowManagerState.reset` — the operations.
* `WindowOperation`, `WindowManagerState.perform` — all operations, with what they read of the
  browser.

## Implementation notes

Coordinates are the finite numbers of the language, taken as rationals without rounding.
Generated ids and the size of the viewport are arguments of the operations that read them.  The
window objects of a desktop are named by their place in its list.
-/

namespace Klynt

/-- The state of a window.  States that were loaded are not checked, so that any text can occur. -/
inductive WindowState where
  /-- As the user placed it. -/
  | normal
  /-- Out of sight. -/
  | minimized
  /-- As large as the viewport. -/
  | maximized
  /-- A text that is none of these. -/
  | other (raw : String) (h : raw ≠ "normal" ∧ raw ≠ "minimized" ∧ raw ≠ "maximized")
  deriving DecidableEq

namespace WindowState

/-- The state as a text. -/
def text : WindowState → String
  | normal => "normal"
  | minimized => "minimized"
  | maximized => "maximized"
  | other raw _ => raw

/-- A text taken as a state. -/
def ofText (raw : String) : WindowState :=
  if hnormal : raw = "normal" then normal
  else if hminimized : raw = "minimized" then minimized
  else if hmaximized : raw = "maximized" then maximized
  else other raw ⟨hnormal, hminimized, hmaximized⟩

/-- A text that was taken as a state is the state as a text. -/
@[simp] lemma text_ofText (raw : String) : (ofText raw).text = raw := by
  unfold ofText
  split_ifs with hnormal hminimized hmaximized
  · exact hnormal.symm
  · exact hminimized.symm
  · exact hmaximized.symm
  · rfl

/-- The state as a text is taken as the state. -/
@[simp] lemma ofText_text (state : WindowState) : ofText state.text = state := by
  cases state with
  | normal => rfl
  | minimized => rfl
  | maximized => rfl
  | other raw h =>
    unfold ofText text
    rw [dif_neg h.1, dif_neg h.2.1, dif_neg h.2.2]

end WindowState

/-- The place and size of a window. -/
structure WindowGeometry where
  /-- The left edge. -/
  x : ℚ
  /-- The upper edge. -/
  y : ℚ
  /-- The width. -/
  width : ℚ
  /-- The height. -/
  height : ℚ
  deriving DecidableEq

/-- A window. -/
structure Window extends WindowGeometry where
  /-- Identifier. -/
  id : String
  /-- The app it shows. -/
  appId : String
  /-- The state. -/
  state : WindowState
  /-- The place in the stack. -/
  zIndex : ℕ
  deriving DecidableEq

/-- What a caller prescribes of a window that is opened. -/
structure PartialWindow where
  /-- The left edge. -/
  x : Option ℚ
  /-- The upper edge. -/
  y : Option ℚ
  /-- The width. -/
  width : Option ℚ
  /-- The height. -/
  height : Option ℚ
  /-- The state. -/
  state : Option WindowState

/-- Nothing is prescribed. -/
def PartialWindow.none : PartialWindow := ⟨.none, .none, .none, .none, .none⟩

/-- The size of the browser window. -/
structure Viewport where
  /-- `window.innerWidth`. -/
  innerWidth : ℤ
  /-- `window.innerHeight`. -/
  innerHeight : ℤ

/-- What is shown. -/
inductive ViewMode where
  /-- The desktop. -/
  | desktop
  /-- The plain website. -/
  | website
  deriving DecidableEq

/-- The state of the store. -/
structure WindowManagerState where
  /-- The windows of each desktop. -/
  windows : Record (List Window)
  /-- The active window of each desktop. -/
  activeWindowId : Record (Option String)
  /-- The number of the next window that is raised. -/
  nextZIndex : ℕ
  /-- Where maximized windows were before. -/
  preMaximizeRects : Record WindowGeometry
  /-- The desktop that is shown. -/
  activeDesktopId : Option String
  /-- What is shown. -/
  viewMode : ViewMode

/-- `DEFAULT_WINDOW_WIDTH`. -/
def defaultWindowWidth : ℚ := 680

/-- `DEFAULT_WINDOW_HEIGHT`. -/
def defaultWindowHeight : ℚ := 520

/-- `Z_INDEX_BASE`. -/
def zIndexBase : ℕ := 100

/-- `Z_INDEX_COMPACT_THRESHOLD`. -/
def zIndexCompactThreshold : ℕ := 10000

/-- `MENUBAR_HEIGHT`. -/
def menubarHeight : ℚ := 36

/-- `initialState`. -/
def initialState : WindowManagerState :=
  { windows := .empty, activeWindowId := .empty, nextZIndex := zIndexBase,
    preMaximizeRects := .empty, activeDesktopId := none, viewMode := .desktop }

/-- `getCenteredRect`. -/
def getCenteredRect (viewport : Viewport) (width height : ℚ) : WindowGeometry :=
  { x := max 16 ((viewport.innerWidth - width) / 2)
    y := max (menubarHeight * 2) ((viewport.innerHeight - height) / 2 - menubarHeight)
    width, height }

/-- `newWindow` of `openApp`: what is not prescribed is the default. -/
def newWindow (viewport : Viewport) (freshId appId : String) (defaultRect : PartialWindow)
    (zIndex : ℕ) : Window :=
  let width := defaultRect.width.getD defaultWindowWidth
  let height := defaultRect.height.getD defaultWindowHeight
  let rect := getCenteredRect viewport width height
  { id := freshId, appId, x := defaultRect.x.getD rect.x, y := defaultRect.y.getD rect.y,
    width, height, state := defaultRect.state.getD .normal, zIndex }

namespace WindowManagerState

variable (draft : WindowManagerState) (desktopId windowId : String)

/-- `draft.windows[desktopId] ?? []`. -/
def desktopWindows : List Window := (draft.windows.get? desktopId).getD []

/-- `draft.activeWindowId[desktopId] ?? null`. -/
def active : Option String := (draft.activeWindowId.get? desktopId).getD none

/-- `draft.windows[desktopId] = windows`. -/
def setWindows (windows : List Window) : WindowManagerState :=
  { draft with windows := draft.windows.set desktopId windows }

/-- `draft.activeWindowId[desktopId] = id`. -/
def setActive (id : Option String) : WindowManagerState :=
  { draft with activeWindowId := draft.activeWindowId.set desktopId id }

/-- The first window of a desktop that satisfies a condition is changed. -/
def editWindow (p : Window → Bool) (f : Window → Window) : WindowManagerState :=
  draft.setWindows desktopId
    ((draft.desktopWindows desktopId).modify ((draft.desktopWindows desktopId).findIdx p) f)

/-! ## Stacking -/

/-- A place in a list of windows: the desktop, and the place on it. -/
abbrev Place : Type := String × ℕ

/-- `Object.values (draft.windows).flat ()`, with the places of the windows. -/
def placedWindows : List (Place × Window) :=
  draft.windows.entries.flatMap fun e => e.2.zipIdx.map fun w => ((e.1, w.2), w.1)

/-- `Object.values (draft.windows).flat ()`. -/
def allWindows : List Window := draft.windows.values.flatten

/-- `compactZIndexes`: the window that is sorted to a place gets the number of the place. -/
def compactZIndexes : WindowManagerState :=
  { draft with
    windows := draft.windows.mapValues fun d windows => windows.mapIdx fun i w =>
      { w with zIndex := zIndexBase + sortRank (·.zIndex) draft.placedWindows (d, i) }
    nextZIndex := zIndexBase + draft.placedWindows.length + 1 }

/-- `maybeCompactZIndexes`. -/
def maybeCompactZIndexes : WindowManagerState :=
  if draft.nextZIndex > zIndexCompactThreshold then draft.compactZIndexes else draft

/-- `win.zIndex = draft.nextZIndex; draft.nextZIndex += 1` for the first window of a desktop that
satisfies a condition, which also changes otherwise. -/
def raiseWindow (p : Window → Bool) (f : Window → Window) : WindowManagerState :=
  { draft.editWindow desktopId p fun w => { f w with zIndex := draft.nextZIndex } with
    nextZIndex := draft.nextZIndex + 1 }

/-! ## Operations -/

/-- Open an app, or show the window it has.  `freshId` is the generated id. -/
def openApp (viewport : Viewport) (freshId : String) (appId : String)
    (defaultRect : PartialWindow) : WindowManagerState :=
  match (draft.desktopWindows desktopId).find? (·.appId = appId) with
  | some existing =>
    ((draft.raiseWindow desktopId (·.appId = appId)
      fun w => { w with state := .normal }).maybeCompactZIndexes).setActive desktopId existing.id
  | none =>
    let newWindow := newWindow viewport freshId appId defaultRect draft.nextZIndex
    let draft : WindowManagerState := { draft with nextZIndex := draft.nextZIndex + 1 }
    ((draft.setWindows desktopId (draft.desktopWindows desktopId ++ [newWindow])).setActive desktopId
      newWindow.id).maybeCompactZIndexes

/-- The topmost of some windows, with its place. -/
def topmost (windows : List Window) : Option (Window × ℕ) :=
  (windows.zipIdx.insertionSort fun a b => b.1.zIndex ≤ a.1.zIndex).head?

/-- `closeWindow` before `maybeCompactZIndexes`. -/
def closing : WindowManagerState :=
  let remaining := (draft.desktopWindows desktopId).filter (·.id ≠ windowId)
  let draft : WindowManagerState := { draft.setWindows desktopId remaining with
    preMaximizeRects := draft.preMaximizeRects.delete windowId }
  if draft.active desktopId = some windowId then
    match topmost remaining with
    | some (top, place) =>
      { (draft.setActive desktopId top.id).setWindows desktopId
          (remaining.modify place fun w => { w with zIndex := draft.nextZIndex }) with
        nextZIndex := draft.nextZIndex + 1 }
    | none => draft.setActive desktopId none
  else draft

/-- Close a window; if it was the active one, the topmost of the others becomes active. -/
def closeWindow : WindowManagerState :=
  (draft.closing desktopId windowId).maybeCompactZIndexes

/-- Raise a window and make it active. -/
def focusWindow : WindowManagerState :=
  let raised :=
    match (draft.desktopWindows desktopId).find? (·.id = windowId) with
    | some _ => (draft.raiseWindow desktopId (·.id = windowId) id).maybeCompactZIndexes
    | none => draft
  raised.setActive desktopId windowId

/-- Place a window, unless it is maximized. -/
def moveWindow (rect : WindowGeometry) : WindowManagerState :=
  match (draft.desktopWindows desktopId).find? (·.id = windowId) with
  | none => draft
  | some win =>
    if win.state = .maximized then draft
    else draft.editWindow desktopId (·.id = windowId) fun w => { w with toWindowGeometry := rect }

/-- Take a window out of sight. -/
def minimizeWindow : WindowManagerState :=
  match (draft.desktopWindows desktopId).find? (·.id = windowId) with
  | none => draft
  | some _ => draft.editWindow desktopId (·.id = windowId) fun w => { w with state := .minimized }

/-- Make a window as large as the viewport. -/
def maximizeWindow (viewport : Viewport) : WindowManagerState :=
  match (draft.desktopWindows desktopId).find? (·.id = windowId) with
  | none => draft
  | some win =>
    let rect : WindowGeometry :=
      { x := 0, y := menubarHeight, width := viewport.innerWidth
        height := viewport.innerHeight - menubarHeight }
    { draft.editWindow desktopId (·.id = windowId)
        fun w => { w with toWindowGeometry := rect, state := .maximized } with
      preMaximizeRects :=
        if win.state = .maximized then draft.preMaximizeRects
        else draft.preMaximizeRects.set windowId win.toWindowGeometry }

/-- Show a window where it was before it was maximized. -/
def restoreWindow : WindowManagerState :=
  match (draft.desktopWindows desktopId).find? (·.id = windowId) with
  | none => draft
  | some _ =>
    match draft.preMaximizeRects.get? windowId with
    | some prevRect =>
      { draft.editWindow desktopId (·.id = windowId)
          fun w => { w with toWindowGeometry := prevRect, state := .normal } with
        preMaximizeRects := draft.preMaximizeRects.delete windowId }
    | none => draft.editWindow desktopId (·.id = windowId) fun w => { w with state := .normal }

/-- Show a desktop. -/
def setActiveDesktop : WindowManagerState := { draft with activeDesktopId := some desktopId }

/-- Show the desktop or the website. -/
def setViewMode (mode : ViewMode) : WindowManagerState := { draft with viewMode := mode }

/-- Back to the initial state. -/
def reset (_ : WindowManagerState) : WindowManagerState := initialState

end WindowManagerState

/-- The operations of the store. -/
inductive WindowOperation where
  /-- `openApp`. -/
  | openApp (viewport : Viewport) (freshId desktopId appId : String) (defaultRect : PartialWindow)
  /-- `closeWindow`. -/
  | closeWindow (desktopId windowId : String)
  /-- `focusWindow`. -/
  | focusWindow (desktopId windowId : String)
  /-- `moveWindow`. -/
  | moveWindow (desktopId windowId : String) (rect : WindowGeometry)
  /-- `minimizeWindow`. -/
  | minimizeWindow (desktopId windowId : String)
  /-- `maximizeWindow`. -/
  | maximizeWindow (viewport : Viewport) (desktopId windowId : String)
  /-- `restoreWindow`. -/
  | restoreWindow (desktopId windowId : String)
  /-- `setActiveDesktop`. -/
  | setActiveDesktop (id : String)
  /-- `setViewMode`. -/
  | setViewMode (mode : ViewMode)
  /-- `reset`. -/
  | reset

/-- The state after an operation. -/
def WindowManagerState.perform (s : WindowManagerState) : WindowOperation → WindowManagerState
  | .openApp viewport freshId desktopId appId defaultRect =>
    s.openApp desktopId viewport freshId appId defaultRect
  | .closeWindow desktopId windowId => s.closeWindow desktopId windowId
  | .focusWindow desktopId windowId => s.focusWindow desktopId windowId
  | .moveWindow desktopId windowId rect => s.moveWindow desktopId windowId rect
  | .minimizeWindow desktopId windowId => s.minimizeWindow desktopId windowId
  | .maximizeWindow viewport desktopId windowId => s.maximizeWindow desktopId windowId viewport
  | .restoreWindow desktopId windowId => s.restoreWindow desktopId windowId
  | .setActiveDesktop id => s.setActiveDesktop id
  | .setViewMode mode => s.setViewMode mode
  | .reset => s.reset

/-- The steps of the store. -/
def WindowStep (s : WindowManagerState) (op : WindowOperation) (s' : WindowManagerState) : Prop :=
  s' = s.perform op

end Klynt
