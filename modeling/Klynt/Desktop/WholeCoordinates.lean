import Mathlib.Tactic.Linarith
import Klynt.Desktop.LayoutWire

set_option relaxedAutoImplicit false
set_option autoImplicit false

/-!
# Windows with whole coordinates

The server keeps coordinates as 32-bit integers, and the client computes them from the size of the
browser window and from how far a window was dragged.  As long as these come out whole, the server
accepts every layout.

## Main definitions

* `DesktopEvent`, `DesktopStep` — what happens to the windows of the desktops.
* `WindowManagerState.StaysWhole` — the events after which coordinates are whole.

## Main results

* `newWindow_whole_iff`, `whole_handleDragEnd_iff` — when a window is opened, and dropped, at whole
  coordinates.
* `DesktopStep.whole` — such an event keeps coordinates whole.
* `layouts_accepted` — after a run of such events, every layout is accepted.
* `layout_refused` — an app that is opened, and whose layout is refused.
-/

namespace Klynt

/-! ## Whole numbers -/

/-- Half of a room, less a shift, but not below a bound, is a 32-bit integer. -/
def CentersWhole (room : ℚ) (low shift : ℤ) : Prop :=
  room ≤ 2 * (low + shift) ∨ ∃ k : ℤ, room = 2 * k ∧ k < 2 ^ 31 + shift

/-- It is, exactly if the bound applies, or the room is even and not too large. -/
lemma isI32_centered_iff {room : ℚ} {low shift : ℤ} (hlow : 0 ≤ low) (hhigh : low < 2 ^ 31) :
    IsI32 (max low (room / 2 - shift)) ↔ CentersWhole room low shift := by
  unfold CentersWhole
  by_cases hroom : room ≤ 2 * (low + shift)
  · have hmax : max (low : ℚ) (room / 2 - shift) = low := max_eq_left (by linarith)
    rw [hmax, isI32_iff]
    exact iff_of_true ⟨low, rfl, by omega, hhigh⟩ (.inl hroom)
  · have hmax : max (low : ℚ) (room / 2 - shift) = room / 2 - shift := max_eq_right (by linarith)
    rw [hmax, isI32_iff]
    constructor
    · rintro ⟨n, hn, -, hn'⟩
      refine .inr ⟨n + shift, ?_, by omega⟩
      push_cast
      linarith
    · rintro (hle | ⟨k, rfl, hk⟩)
      · exact absurd hle hroom
      · refine ⟨k - shift, ?_, ?_, by omega⟩
        · push_cast
          ring
        · have hlt : (low : ℚ) + shift < k := by linarith
          have hlt' : low + shift < k := by exact_mod_cast hlt
          omega

/-- A place that is kept between two bounds is a 32-bit integer. -/
def DropsWhole (drop limit : ℚ) (low : ℤ) : Prop :=
  (low < drop → drop < limit → drop.den = 1) ∧ (drop < 2 ^ 31 ∨ limit < 2 ^ 31)

/-- It is, exactly if it is whole where no bound applies, and not too large. -/
lemma isI32_dropped_iff {drop limit : ℚ} {low : ℤ} (hlow : 0 ≤ low) (hhigh : low < 2 ^ 31)
    (hlimit : limit.den = 1) : IsI32 (max low (min drop limit)) ↔ DropsWhole drop limit low := by
  obtain ⟨l, rfl⟩ : ∃ l : ℤ, (l : ℚ) = limit := ⟨limit.num, Rat.coe_int_num_of_den_eq_one hlimit⟩
  have hcast : (low : ℚ) < 2 ^ 31 := by exact_mod_cast hhigh
  unfold DropsWhole
  rcases le_or_gt drop low with hdrop | hdrop
  · -- the place is below the lower bound
    rw [max_eq_left ((min_le_left _ _).trans hdrop), isI32_iff]
    refine iff_of_true ⟨low, rfl, by omega, hhigh⟩ ⟨fun h => absurd h (not_lt.mpr hdrop), .inl ?_⟩
    exact hdrop.trans_lt hcast
  rcases le_or_gt (l : ℚ) drop with hl | hl
  · -- the place is above the upper bound
    rw [min_eq_right hl, ← Int.cast_max, isI32_iff]
    constructor
    · rintro ⟨n, hn, -, hn'⟩
      have hmax : max low l = n := by exact_mod_cast hn
      have hlt : l < 2 ^ 31 := lt_of_le_of_lt (le_max_right low l) (hmax ▸ hn')
      exact ⟨fun _ h => absurd h (not_lt.mpr hl), .inr (by exact_mod_cast hlt)⟩
    · rintro ⟨-, hlt⟩
      have hlt' : (l : ℚ) < 2 ^ 31 := hlt.elim (fun h => hl.trans_lt h) id
      have hlt'' : l < 2 ^ 31 := by exact_mod_cast hlt'
      exact ⟨max low l, rfl, (by omega : -2 ^ 31 ≤ low).trans (le_max_left _ _), max_lt hhigh hlt''⟩
  · -- no bound applies
    rw [min_eq_left hl.le, max_eq_right hdrop.le]
    constructor
    · intro h
      obtain ⟨n, rfl, -, hn⟩ := isI32_iff.mp h
      exact ⟨fun _ _ => h.1, .inl (by exact_mod_cast hn)⟩
    · rintro ⟨hden, hlt⟩
      obtain ⟨n, rfl⟩ : ∃ n : ℤ, (n : ℚ) = drop :=
        ⟨drop.num, Rat.coe_int_num_of_den_eq_one (hden hdrop hl)⟩
      have hlt' : (n : ℚ) < 2 ^ 31 := hlt.elim id fun h => hl.trans h
      have hlow' : low < n := by exact_mod_cast hdrop
      exact isI32_iff.mpr ⟨n, rfl, by omega, by exact_mod_cast hlt'⟩

/-! ## Windows that are opened and dropped -/

/-- A window that is opened comes out whole: what is prescribed is whole, and so is what is
centred. -/
structure OpensWhole (viewport : Viewport) (rect : PartialWindow) : Prop where
  /-- The width. -/
  width : IsI32 (rect.width.getD defaultWindowWidth)
  /-- The height. -/
  height : IsI32 (rect.height.getD defaultWindowHeight)
  /-- The left edge, if it is prescribed. -/
  x : ∀ q, rect.x = some q → IsI32 q
  /-- The upper edge, if it is prescribed. -/
  y : ∀ q, rect.y = some q → IsI32 q
  /-- The left edge, if it is not. -/
  centersX : rect.x = none →
    CentersWhole (viewport.innerWidth - rect.width.getD defaultWindowWidth) 16 0
  /-- The upper edge, if it is not. -/
  centersY : rect.y = none →
    CentersWhole (viewport.innerHeight - rect.height.getD defaultWindowHeight) 72 36

/-- An edge is prescribed, or centred. -/
lemma isI32_getD_iff {prescribed : Option ℚ} {q : ℚ} {p : Prop} (h : IsI32 q ↔ p) :
    IsI32 (prescribed.getD q) ↔ (∀ r, prescribed = some r → IsI32 r) ∧ (prescribed = none → p) := by
  cases prescribed with
  | none => exact ⟨fun hq => ⟨nofun, fun _ => h.mp hq⟩, fun hp => h.mpr (hp.2 rfl)⟩
  | some r =>
    refine ⟨fun hr => ⟨?_, nofun⟩, fun hr => hr.1 r rfl⟩
    rintro r' hr'
    obtain rfl := Option.some.inj hr'
    exact hr

/-- The centred left edge is whole. -/
lemma isI32_getCenteredRect_x (viewport : Viewport) (width height : ℚ) :
    IsI32 (getCenteredRect viewport width height).x ↔
      CentersWhole (viewport.innerWidth - width) 16 0 := by
  have h := @isI32_centered_iff (viewport.innerWidth - width) 16 0 (by omega) (by omega)
  simpa [getCenteredRect] using h

/-- The centred upper edge is whole. -/
lemma isI32_getCenteredRect_y (viewport : Viewport) (width height : ℚ) :
    IsI32 (getCenteredRect viewport width height).y ↔
      CentersWhole (viewport.innerHeight - height) 72 36 := by
  have h := @isI32_centered_iff (viewport.innerHeight - height) 72 36 (by omega) (by omega)
  have hbound : menubarHeight * 2 = ((72 : ℤ) : ℚ) := by
    unfold menubarHeight
    norm_num
  unfold getCenteredRect
  rw [hbound]
  exact h

/-- **A window is opened at whole coordinates** exactly under the condition. -/
lemma newWindow_whole_iff {viewport : Viewport} {freshId appId : String} {rect : PartialWindow}
    {zIndex : ℕ} : (newWindow viewport freshId appId rect zIndex).Whole ↔ OpensWhole viewport rect := by
  have hx : IsI32 (newWindow viewport freshId appId rect zIndex).x ↔ _ :=
    isI32_getD_iff (isI32_getCenteredRect_x viewport _ _)
  have hy : IsI32 (newWindow viewport freshId appId rect zIndex).y ↔ _ :=
    isI32_getD_iff (isI32_getCenteredRect_y viewport _ _)
  unfold WindowGeometry.Whole
  rw [hx, hy]
  constructor
  · rintro ⟨⟨hx, hcentersX⟩, ⟨hy, hcentersY⟩, hwidth, hheight⟩
    exact ⟨hwidth, hheight, hx, hy, hcentersX, hcentersY⟩
  · intro h
    exact ⟨⟨h.x, h.centersX⟩, ⟨h.y, h.centersY⟩, h.width, h.height⟩

/-- `handleDragEnd`: the window is moved by the offset, but kept within bounds. -/
def handleDragEnd (viewport : Viewport) (w : Window) (offsetX offsetY : ℚ) : WindowGeometry :=
  { x := max 0 (min (w.x + offsetX) (viewport.innerWidth - w.width))
    y := max 36 (min (w.y + offsetY) (viewport.innerHeight - 40))
    width := w.width, height := w.height }

/-- A window is dropped at a whole place. -/
def LandsWhole (viewport : Viewport) (w : Window) (offsetX offsetY : ℚ) : Prop :=
  DropsWhole (w.x + offsetX) (viewport.innerWidth - w.width) 0 ∧
    DropsWhole (w.y + offsetY) (viewport.innerHeight - 40) 36

/-- **A whole window is dropped at whole coordinates** exactly under the condition. -/
lemma whole_handleDragEnd_iff {viewport : Viewport} {w : Window} {offsetX offsetY : ℚ}
    (hw : w.Whole) : (handleDragEnd viewport w offsetX offsetY).Whole ↔
      LandsWhole viewport w offsetX offsetY := by
  obtain ⟨-, -, hwidth, hheight⟩ := hw
  have hright : ((viewport.innerWidth : ℚ) - w.width).den = 1 := by
    rw [← Rat.coe_int_num_of_den_eq_one hwidth.1, ← Int.cast_sub]
    exact Rat.den_intCast _
  have hbottom : ((viewport.innerHeight : ℚ) - 40).den = 1 := by
    rw [← Int.cast_ofNat, ← Int.cast_sub]
    exact Rat.den_intCast _
  have hx := @isI32_dropped_iff (w.x + offsetX) _ 0 (by omega) (by omega) hright
  have hy := @isI32_dropped_iff (w.y + offsetY) _ 36 (by omega) (by omega) hbottom
  constructor
  · rintro ⟨hdropX, hdropY, -, -⟩
    exact ⟨hx.mp hdropX, hy.mp hdropY⟩
  · rintro ⟨hdropX, hdropY⟩
    exact ⟨hx.mpr hdropX, hy.mpr hdropY, hwidth, hheight⟩

/-! ## Events -/

/-- What happens to the windows of the desktops. -/
inductive DesktopEvent where
  /-- An operation of the store. -/
  | operation (op : WindowOperation)
  /-- A window was dragged. -/
  | dragEnd (viewport : Viewport) (desktopId : String) (w : Window) (offsetX offsetY : ℚ)

/-- The steps of the desktops.  Only windows that are shown and not maximized are dragged. -/
inductive DesktopStep (s : WindowManagerState) : DesktopEvent → WindowManagerState → Prop where
  /-- An operation of the store. -/
  | operation (op : WindowOperation) : DesktopStep s (.operation op) (s.perform op)
  /-- A window is dropped. -/
  | dragEnd (viewport : Viewport) (d : String) (w : Window) (offsetX offsetY : ℚ)
      (hw : w ∈ s.desktopWindows d) (hstate : w.state ≠ .maximized) :
      DesktopStep s (.dragEnd viewport d w offsetX offsetY)
        (s.perform (.moveWindow d w.id (handleDragEnd viewport w offsetX offsetY)))

namespace WindowManagerState

variable {s t : WindowManagerState} {d : String}

/-- Coordinates are whole, of the windows, and of the places to which windows are restored. -/
structure WholeWindows (s : WindowManagerState) : Prop where
  /-- Of the windows. -/
  windows : ∀ d, ∀ w ∈ s.desktopWindows d, w.Whole
  /-- Of the places. -/
  rects : ∀ id g, s.preMaximizeRects.get? id = some g → g.Whole

/-- **The events after which coordinates are whole**, in the state before them: an app that has no
window is opened whole, a window that is not maximized is moved to a whole place, a window is
maximized to a size in range, and a window that is dragged lands at a whole place. -/
def StaysWhole (s : WindowManagerState) : DesktopEvent → Prop
  | .operation (.openApp viewport _ d appId rect) =>
    (s.desktopWindows d).find? (·.appId = appId) = none → OpensWhole viewport rect
  | .operation (.moveWindow d windowId rect) =>
    ∀ w, (s.desktopWindows d).find? (·.id = windowId) = some w → w.state ≠ .maximized → rect.Whole
  | .operation (.maximizeWindow viewport d windowId) =>
    (s.desktopWindows d).find? (·.id = windowId) ≠ none →
      (-2 ^ 31 ≤ viewport.innerWidth ∧ viewport.innerWidth < 2 ^ 31) ∧
        -2 ^ 31 + 36 ≤ viewport.innerHeight ∧ viewport.innerHeight < 2 ^ 31 + 36
  | .operation _ => True
  | .dragEnd viewport _ w offsetX offsetY => LandsWhole viewport w offsetX offsetY

namespace WholeWindows

/-- The windows and the places to which they are restored matter. -/
lemma congr (h : s.WholeWindows) (hw : t.windows = s.windows)
    (hr : t.preMaximizeRects = s.preMaximizeRects) : t.WholeWindows := by
  constructor
  · intro d w hmem
    unfold desktopWindows at hmem
    rw [hw] at hmem
    exact h.windows d w hmem
  · rw [hr]
    exact h.rects

/-- The windows of a desktop change. -/
lemma setWindows (h : s.WholeWindows) {windows : List Window} (hw : ∀ w ∈ windows, w.Whole) :
    (s.setWindows d windows).WholeWindows := by
  refine ⟨fun e w hmem => ?_, h.rects⟩
  rw [desktopWindows_setWindows] at hmem
  split at hmem
  · exact hw w hmem
  · exact h.windows e w hmem

/-- The places to which windows are restored change. -/
lemma setRects (h : s.WholeWindows) {rects : Record WindowGeometry}
    (hr : ∀ id g, rects.get? id = some g → g.Whole) :
    WholeWindows { s with preMaximizeRects := rects } :=
  ⟨h.windows, hr⟩

/-- Numbering anew changes no coordinates. -/
lemma maybeCompact (h : s.WholeWindows) : s.maybeCompactZIndexes.WholeWindows := by
  constructor
  · intro d w hw
    have hmem : w.toWindowGeometry ∈ (s.desktopWindows d).map (·.toWindowGeometry) := by
      rw [← map_maybeCompact_of_eq fun _ _ => rfl]
      exact List.mem_map_of_mem hw
    obtain ⟨v, hv, heq⟩ := List.mem_map.mp hmem
    rw [← heq]
    exact h.windows d v hv
  · unfold maybeCompactZIndexes
    split <;> exact h.rects

/-- A window is changed. -/
lemma editWindow (h : s.WholeWindows) {p : Window → Bool} {f : Window → Window}
    (hf : ∀ w, w.Whole → (f w).Whole) : (s.editWindow d p f).WholeWindows := by
  refine h.setWindows fun v hv => ?_
  obtain ⟨u, hu, rfl | rfl⟩ := of_mem_modify hv
  · exact h.windows d v hu
  · exact hf u (h.windows d u hu)

/-- A window is raised. -/
lemma raiseWindow (h : s.WholeWindows) {p : Window → Bool} {f : Window → Window}
    (hf : ∀ w, w.Whole → (f w).Whole) : (s.raiseWindow d p f).WholeWindows :=
  (h.editWindow (p := p) (f := fun w => { f w with zIndex := s.nextZIndex }) hf).congr rfl rfl

/-- A place is forgotten. -/
lemma get?_delete {id windowId : String} {g : WindowGeometry} (h : s.WholeWindows)
    (hg : (s.preMaximizeRects.delete windowId).get? id = some g) : g.Whole := by
  rw [Record.get?_delete] at hg
  split at hg
  · cases hg
  · exact h.rects id g hg

/-- An app is opened. -/
lemma openApp (h : s.WholeWindows) {viewport : Viewport} {freshId appId : String}
    {rect : PartialWindow}
    (hc : s.StaysWhole (.operation (.openApp viewport freshId d appId rect))) :
    (s.openApp d viewport freshId appId rect).WholeWindows := by
  unfold WindowManagerState.openApp
  split
  · have hraised := h.raiseWindow (d := d) (p := (·.appId = appId))
      (f := fun w => { w with state := .normal }) fun _ hw => hw
    exact hraised.maybeCompact.congr rfl rfl
  · rename_i hfind
    have hwhole : ∀ w ∈ s.desktopWindows d ++ [newWindow viewport freshId appId rect s.nextZIndex],
        w.Whole := by
      intro w hw
      rcases List.mem_append.mp hw with hw | hw
      · exact h.windows d w hw
      · obtain rfl := List.mem_singleton.mp hw
        exact newWindow_whole_iff.mpr (hc hfind)
    exact maybeCompact ((h.setWindows hwhole).congr rfl rfl)

/-- A window is closed. -/
lemma closeWindow (h : s.WholeWindows) {windowId : String} :
    (s.closeWindow d windowId).WholeWindows := by
  refine maybeCompact ?_
  have hrest : ∀ w ∈ (s.desktopWindows d).filter (·.id ≠ windowId), w.Whole :=
    fun w hw => h.windows d w (List.mem_of_mem_filter hw)
  have hclosed : WholeWindows { s.setWindows d ((s.desktopWindows d).filter (·.id ≠ windowId)) with
      preMaximizeRects := s.preMaximizeRects.delete windowId } :=
    (h.setWindows hrest).setRects fun id g hg => h.get?_delete hg
  unfold closing
  dsimp only
  split
  · split
    · rename_i top place htop
      refine (hclosed.setWindows (d := d) fun v hv => ?_).congr rfl rfl
      obtain ⟨u, hu, rfl | rfl⟩ := of_mem_modify hv
      · exact hrest v hu
      · exact hrest u hu
    · exact hclosed.congr rfl rfl
  · exact hclosed

end WholeWindows

end WindowManagerState

open WindowManagerState

/-- A whole rectangle for a maximized window. -/
lemma whole_maximized {viewport : Viewport}
    (hwidth : -2 ^ 31 ≤ viewport.innerWidth ∧ viewport.innerWidth < 2 ^ 31)
    (hheight : -2 ^ 31 + 36 ≤ viewport.innerHeight ∧ viewport.innerHeight < 2 ^ 31 + 36) :
    (⟨0, menubarHeight, viewport.innerWidth, viewport.innerHeight - menubarHeight⟩ :
      WindowGeometry).Whole := by
  have hrest : (viewport.innerHeight : ℚ) - menubarHeight = ((viewport.innerHeight - 36 : ℤ) : ℚ) := by
    rw [Int.cast_sub]
    rfl
  have hx : IsI32 0 := by decide +kernel
  have hy : IsI32 menubarHeight := by decide +kernel
  refine ⟨hx, hy, isI32_iff.mpr ⟨_, rfl, hwidth⟩, ?_⟩
  rw [hrest]
  exact isI32_iff.mpr ⟨_, rfl, by omega, by omega⟩

/-- A window is moved to a whole place. -/
lemma WindowManagerState.WholeWindows.moveWindow {s : WindowManagerState} (h : s.WholeWindows)
    {d windowId : String} {rect : WindowGeometry}
    (hrect : ∀ w, (s.desktopWindows d).find? (·.id = windowId) = some w → w.state ≠ .maximized →
      rect.Whole) : (s.moveWindow d windowId rect).WholeWindows := by
  unfold WindowManagerState.moveWindow
  split
  · exact h
  · rename_i w hfind
    split
    · exact h
    · rename_i hstate
      exact h.editWindow fun _ _ => hrect w hfind hstate

/-- **Such an event keeps coordinates whole.** -/
theorem DesktopStep.whole {s s' : WindowManagerState} {event : DesktopEvent} (h : s.WholeWindows)
    (hc : s.StaysWhole event) (hstep : DesktopStep s event s') : s'.WholeWindows := by
  cases hstep with
  | dragEnd viewport d w offsetX offsetY hw hstate =>
    exact h.moveWindow fun _ _ _ => (whole_handleDragEnd_iff (h.windows d w hw)).mpr hc
  | operation op =>
    cases op with
    | openApp viewport freshId d appId rect => exact h.openApp hc
    | closeWindow d windowId => exact h.closeWindow
    | focusWindow d windowId =>
      unfold WindowManagerState.perform WindowManagerState.focusWindow
      dsimp only
      split
      · exact (h.raiseWindow (f := id) fun _ hw => hw).maybeCompact.congr rfl rfl
      · exact h.congr rfl rfl
    | moveWindow d windowId rect => exact h.moveWindow hc
    | minimizeWindow d windowId =>
      unfold WindowManagerState.perform WindowManagerState.minimizeWindow
      dsimp only
      split
      · exact h
      · exact h.editWindow fun _ hw => hw
    | maximizeWindow viewport d windowId =>
      unfold WindowManagerState.perform WindowManagerState.maximizeWindow
      dsimp only
      split
      · exact h
      · rename_i win hfind
        obtain ⟨hwidth, hheight⟩ := hc (by rw [hfind]; exact nofun)
        have hedit := h.editWindow (d := d) (p := (·.id = windowId))
          (f := fun w => { w with
            toWindowGeometry := ⟨0, menubarHeight, viewport.innerWidth,
              viewport.innerHeight - menubarHeight⟩
            state := .maximized }) fun _ _ => whole_maximized hwidth hheight
        refine hedit.setRects fun id g hg => ?_
        split at hg
        · exact h.rects id g hg
        · rw [Record.get?_set] at hg
          split at hg
          · obtain rfl := Option.some.inj hg
            exact h.windows d win (List.mem_of_find?_eq_some hfind)
          · exact h.rects id g hg
    | restoreWindow d windowId =>
      unfold WindowManagerState.perform WindowManagerState.restoreWindow
      dsimp only
      split
      · exact h
      · split
        · rename_i prevRect hprev
          have hedit := h.editWindow (d := d) (p := (·.id = windowId))
            (f := fun w => { w with toWindowGeometry := prevRect, state := .normal })
            fun _ _ => h.rects windowId prevRect hprev
          exact hedit.setRects fun id g hg => h.get?_delete hg
        · exact h.editWindow fun _ hw => hw
    | setActiveDesktop id => exact h.congr rfl rfl
    | setViewMode mode => exact h.congr rfl rfl
    | reset => exact ⟨fun d => nofun, fun id => nofun⟩

/-- **The server accepts what the desktops save**, after every run whose events all keep
coordinates whole.

**Proof sketch.** Coordinates of windows are whole initially, and so are the places to which
windows are restored; every event keeps that.  The server reads a layout whose coordinates are
32-bit integers, and its answer is read as the same layout. -/
theorem layouts_accepted {humps : KeyConversion} (hhumps : humps.Documented)
    {tr : List (WindowManagerState × DesktopEvent)} {s : WindowManagerState}
    (h : Run (· = initialState) DesktopStep tr s) (hc : ∀ e ∈ tr, e.1.StaysWhole e.2)
    (config : DesktopConfig) (backgroundPresetId : String) (isLoading isBelowLg : Bool) :
    Accepted humps
      (DesktopEnvironment.layout config ⟨s, backgroundPresetId, isLoading, isBelowLg⟩) := by
  have hwhole : s.WholeWindows := by
    refine Run.invariant_of_forall ?_ (fun s event s' hs hcond hstep => hstep.whole hs hcond) h hc
    rintro s rfl
    exact ⟨fun d => nofun, fun id => nofun⟩
  exact (accepted_layout_iff hhumps config _).mpr (hwhole.windows config.id)

namespace Scenario

/-- A conversion of keys: words are separated by underscores, or by capitals. -/
def humps : KeyConversion where
  camelize key := String.ofList (capitalize key.toList)
  decamelize key := String.ofList
    (key.toList.flatMap fun c => if c.isUpper then ['_', c.toLower] else [c])
where
  /-- The letters after underscores become capitals. -/
  capitalize : List Char → List Char
    | '_' :: c :: cs => c.toUpper :: capitalize cs
    | c :: cs => c :: capitalize cs
    | [] => []

/-- It does what is documented. -/
lemma humps_documented : humps.Documented := by
  constructor <;> decide +kernel

/-- A browser window of even size. -/
def evenViewport : Viewport := ⟨1200, 800⟩

/-- A window that was opened in it. -/
def opened : WindowManagerState :=
  initialState.perform (.openApp evenViewport "w1" "tenant:acme" "files" .none)

/-- The window. -/
def openedWindow : Window := newWindow evenViewport "w1" "files" .none 100

/-- A window is opened in a browser window of odd height. -/
def oddOpening : WindowOperation := .openApp viewport "w1" "tenant:acme" "files" .none

end Scenario

open Scenario

/-- A window that was opened and dragged. -/
theorem layouts_accepted_dragged :
    Accepted humps (DesktopEnvironment.layout desktop ⟨opened.perform (.moveWindow "tenant:acme" "w1"
      (handleDragEnd evenViewport openedWindow 10 20)), "fabric", false, false⟩) := by
  have hdragged : Run (· = initialState) DesktopStep
      [(opened, .dragEnd evenViewport "tenant:acme" openedWindow 10 20),
        (initialState, .operation (.openApp evenViewport "w1" "tenant:acme" "files" .none))]
      (opened.perform (.moveWindow "tenant:acme" "w1"
        (handleDragEnd evenViewport openedWindow 10 20))) :=
    .snoc (.snoc (.start rfl) (.operation _))
      (.dragEnd evenViewport "tenant:acme" openedWindow 10 20 (by decide +kernel) nofun)
  refine layouts_accepted humps_documented hdragged ?_ desktop "fabric" false false
  refine List.forall_mem_cons.mpr ⟨?_, List.forall_mem_cons.mpr ⟨fun _ => ?_, List.forall_mem_nil _⟩⟩
  · show LandsWhole _ _ _ _
    unfold LandsWhole DropsWhole
    decide +kernel
  · exact {
      width := by decide +kernel
      height := by decide +kernel
      x := nofun
      y := nofun
      centersX := fun _ => .inr ⟨260, by decide +kernel, by decide⟩
      centersY := fun _ => .inr ⟨140, by decide +kernel, by decide⟩ }

/-- **The server refuses the layout of a desktop** after an app was opened in a browser window of
odd height. -/
theorem layout_refused :
    Run (· = initialState) DesktopStep [(initialState, .operation oddOpening)]
      (initialState.perform oddOpening) ∧
    ¬ Accepted humps (DesktopEnvironment.layout desktop
      ⟨initialState.perform oddOpening, "fabric", false, false⟩) := by
  refine ⟨.snoc (.start rfl) (.operation oddOpening), fun h => ?_⟩
  have hwhole := (accepted_layout_iff humps_documented desktop _).mp h
  revert hwhole
  decide +kernel

end Klynt
