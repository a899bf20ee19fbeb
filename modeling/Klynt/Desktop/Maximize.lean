import Klynt.Desktop.ActiveWindow

set_option relaxedAutoImplicit false
set_option autoImplicit false

/-!
# Where a maximized window was before

A window that is maximized keeps in the store the place it had, and gets it back when it is
restored.  It can leave the maximized state in other ways: it may be minimized, or its app may be
opened.

## Main definitions

* `Pane`, `Pane.step` — one window by itself, and what happens to it.
* `WindowManagerState.pane?` — a window of the store by itself.
* `Remembers` — a window in its normal state has its place, and nothing is kept for it.
* `KeepsRect` — the operations that do not lose the place.

## Main results

* `pane?_perform` — the operations of the store act on each window as on a window by itself.
* `geometry_remembered` — a window in its normal state always has its place, if all operations are
  of this kind.
* `geometry_forgotten` — after an operation of another kind it has not, at once or when the window
  is restored.
* `geometry_lost` — a window that is maximized, minimized, maximized and restored.
-/

namespace Klynt

/-! ## A window by itself -/

/-- A window by itself. -/
structure Pane where
  /-- The state. -/
  state : WindowState
  /-- The place. -/
  geometry : WindowGeometry
  /-- The place it had before it was maximized. -/
  rect : Option WindowGeometry
  deriving DecidableEq

/-- What happens to a window. -/
inductive PaneEvent where
  /-- It is maximized. -/
  | maximize (full : WindowGeometry)
  /-- It is minimized. -/
  | minimize
  /-- It is restored. -/
  | restore
  /-- Its app is opened. -/
  | openApp
  /-- Nothing. -/
  | none

namespace Pane

variable {p : Pane} {event : PaneEvent} {g : WindowGeometry}

/-- A window after something happened to it. -/
def step (p : Pane) : PaneEvent → Pane
  | .maximize full =>
    { state := .maximized, geometry := full
      rect := if p.state = .maximized then p.rect else some p.geometry }
  | .minimize => { p with state := .minimized }
  | .restore => { state := .normal, geometry := p.rect.getD p.geometry, rect := none }
  | .openApp => { p with state := .normal }
  | .none => p

/-- In its normal state, a window has its place, and nothing is kept for it. -/
def Placed (g : WindowGeometry) (p : Pane) : Prop :=
  p.state = .normal → p.geometry = g ∧ p.rect = none

/-- The place of a window: nothing is kept for it, and it is there, or the place is kept. -/
def Shape (g : WindowGeometry) (p : Pane) : Prop :=
  (p.rect = none ∧ p.geometry = g ∧ (p.state = .normal ∨ p.state = .minimized)) ∨
    (p.rect = some g ∧ (p.state = .maximized ∨ p.state = .minimized))

/-- The events that do not lose the place: the app is opened only if nothing is kept for the window,
and the window is maximized only if it is not minimized while another place than its own is kept
for it. -/
def Keeps (p : Pane) : PaneEvent → Prop
  | .openApp => p.rect = none
  | .maximize _ => p.state = .minimized → ∀ r, p.rect = some r → p.geometry = r
  | _ => True

/-- A window that is where it should be. -/
lemma Shape.placed (h : p.Shape g) : p.Placed g := by
  intro hnormal
  obtain ⟨hrect, hgeometry, -⟩ | ⟨-, hstate | hstate⟩ := h
  · exact ⟨hgeometry, hrect⟩
  · rw [hnormal] at hstate
    cases hstate
  · rw [hnormal] at hstate
    cases hstate

/-- **What keeps the place** keeps the invariant. -/
lemma Shape.step (h : p.Shape g) (hkeeps : p.Keeps event) : (p.step event).Shape g := by
  cases event with
  | maximize full =>
    refine .inr ⟨?_, .inl rfl⟩
    obtain ⟨hrect, hgeometry, hstate⟩ | ⟨hrect, hstate | hstate⟩ := h
    · have hne : p.state ≠ .maximized := by
        rcases hstate with hstate | hstate <;> rw [hstate] <;> nofun
      rw [Pane.step, if_neg hne, hgeometry]
    · rw [Pane.step, if_pos hstate, hrect]
    · have hne : p.state ≠ .maximized := by rw [hstate]; nofun
      rw [Pane.step, if_neg hne, hkeeps hstate g hrect]
  | minimize =>
    obtain ⟨hrect, hgeometry, -⟩ | ⟨hrect, -⟩ := h
    · exact .inl ⟨hrect, hgeometry, .inr rfl⟩
    · exact .inr ⟨hrect, .inr rfl⟩
  | restore =>
    refine .inl ⟨rfl, ?_, .inl rfl⟩
    obtain ⟨hrect, hgeometry, -⟩ | ⟨hrect, -⟩ := h
    · rw [Pane.step, hrect, Option.getD_none, hgeometry]
    · rw [Pane.step, hrect, Option.getD_some]
  | openApp =>
    have hnone : p.rect = none := hkeeps
    obtain ⟨hrect, hgeometry, -⟩ | ⟨hrect, -⟩ := h
    · exact .inl ⟨hrect, hgeometry, .inl rfl⟩
    · rw [hnone] at hrect
      cases hrect
  | none => exact h

/-- **What does not keep the place** loses it, at once or when the window is restored. -/
lemma not_placed_of_not_keeps (h : p.Shape g) (hkeeps : ¬ p.Keeps event) :
    ¬ (p.step event).Placed g ∨ ¬ ((p.step event).step .restore).Placed g := by
  cases event with
  | maximize full =>
    right
    intro hplaced
    obtain ⟨hgeometry, -⟩ := hplaced rfl
    refine hkeeps fun hstate r hr => ?_
    have hne : p.state ≠ .maximized := by rw [hstate]; nofun
    obtain ⟨hrect, -⟩ | ⟨hrect, -⟩ := h
    · rw [hr] at hrect
      cases hrect
    · obtain rfl := Option.some.inj (hr.symm.trans hrect)
      simpa only [Pane.step, if_neg hne, Option.getD_some] using hgeometry
  | openApp =>
    left
    intro hplaced
    exact hkeeps (hplaced rfl).2
  | minimize => exact absurd trivial hkeeps
  | restore => exact absurd trivial hkeeps
  | none => exact absurd trivial hkeeps

end Pane

/-! ## A window of the store -/

namespace WindowManagerState

/-- The window of a desktop with an id. -/
def window? (s : WindowManagerState) (d id : String) : Option Window :=
  (s.desktopWindows d).find? (·.id = id)

/-- A window of the store by itself. -/
def pane? (s : WindowManagerState) (d id : String) : Option Pane :=
  (s.window? d id).map fun w => ⟨w.state, w.toWindowGeometry, s.preMaximizeRects.get? id⟩

/-- A window is in the store, with its app, and as it is by itself. -/
structure Shows (s : WindowManagerState) (d id appId : String) (p : Pane) : Prop where
  /-- The window. -/
  window : ∃ z, s.window? d id = some { p.geometry with id, appId, state := p.state, zIndex := z }
  /-- What is kept for it. -/
  rect : s.preMaximizeRects.get? id = p.rect

/-- The state and the place of a window that is in the store. -/
lemma Shows.pane? {s : WindowManagerState} {d id appId : String} {p : Pane}
    (h : s.Shows d id appId p) : s.pane? d id = some p := by
  obtain ⟨z, hwindow⟩ := h.window
  rw [WindowManagerState.pane?, hwindow, h.rect]
  rfl

end WindowManagerState

/-- The place of a maximized window. -/
def maximizedRect (viewport : Viewport) : WindowGeometry :=
  { x := 0, y := menubarHeight, width := viewport.innerWidth
    height := viewport.innerHeight - menubarHeight }

/-- What an operation does to the window of a desktop that has an id and an app. -/
def WindowOperation.event (d id appId : String) : WindowOperation → PaneEvent
  | .openApp _ _ d' appId' _ => if d' = d ∧ appId' = appId then .openApp else .none
  | .minimizeWindow d' id' => if d' = d ∧ id' = id then .minimize else .none
  | .maximizeWindow viewport d' id' =>
    if d' = d ∧ id' = id then .maximize (maximizedRect viewport) else .none
  | .restoreWindow d' id' => if d' = d ∧ id' = id then .restore else .none
  | _ => .none

/-- Operations that do not move or close the window; an operation that names it does not look for it
on another desktop. -/
def WindowOperation.Spares (d id : String) : WindowOperation → Prop
  | .moveWindow d' id' _ => ¬ (d' = d ∧ id' = id)
  | .closeWindow _ id' => id' ≠ id
  | .maximizeWindow _ d' id' => id' = id → d' = d
  | .restoreWindow d' id' => id' = id → d' = d
  | .reset => False
  | _ => True

section Lists

variable {windows : List Window} {p q : Window → Bool} {f : Window → Window} {w : Window}

/-- What is found after one window was changed that keeps what is looked for. -/
lemma find?_modify_of_find? (h : windows.find? q = some w) (hf : ∀ v, q (f v) = q v) (i : ℕ) :
    (windows.modify i f).find? q = some (if i = windows.findIdx q then f w else w) := by
  induction windows generalizing i with
  | nil => cases h
  | cons v vs ih =>
    by_cases hv : q v = true
    · rw [List.find?_cons_of_pos hv] at h
      obtain rfl := Option.some.inj h
      rw [List.findIdx_cons, hv]
      cases i with
      | zero => rw [List.modify_zero_cons, List.find?_cons_of_pos (by rw [hf, hv])]; rfl
      | succ i => rw [List.modify_succ_cons, List.find?_cons_of_pos hv]; rfl
    · rw [List.find?_cons_of_neg hv] at h
      rw [List.findIdx_cons, Bool.not_eq_true _ |>.mp hv]
      cases i with
      | zero =>
        rw [List.modify_zero_cons, List.find?_cons_of_neg (by rw [hf]; exact hv), h]
        rfl
      | succ i =>
        rw [List.modify_succ_cons, List.find?_cons_of_neg hv, ih h]
        simp

/-- A window that does not satisfy a condition is not the first one that does. -/
lemma findIdx_ne_of_find? (h : windows.find? q = some w) (hp : p w = false) :
    windows.findIdx p ≠ windows.findIdx q := by
  intro heq
  obtain ⟨hlt, hget⟩ := List.getElem?_eq_some_iff.mp (getElem?_findIdx h)
  have hlt' : windows.findIdx p < windows.length := by rwa [heq]
  have hpw : p windows[windows.findIdx p] = true := List.findIdx_getElem
  simp only [heq, hget, hp] at hpw
  cases hpw

/-- Where apps are distinct, a window is the first one with its app. -/
lemma findIdx_appId (h : windows.find? q = some w) (happs : (windows.map (·.appId)).Nodup) :
    windows.findIdx (·.appId = w.appId) = windows.findIdx q := by
  have hw := getElem?_findIdx h
  have hmem : ∃ v ∈ windows, decide (v.appId = w.appId) = true :=
    ⟨w, List.mem_of_find?_eq_some h, decide_eq_true rfl⟩
  have hlt : windows.findIdx (·.appId = w.appId) < windows.length :=
    List.findIdx_lt_length_of_exists hmem
  have happ : windows[windows.findIdx (·.appId = w.appId)].appId = w.appId :=
    of_decide_eq_true (List.findIdx_getElem (p := fun v : Window => decide (v.appId = w.appId)))
  refine (List.getElem?_inj (by rwa [List.length_map]) happs).mp ?_
  rw [List.getElem?_map, List.getElem?_map, hw, List.getElem?_eq_getElem hlt]
  exact congrArg some happ

end Lists

namespace WindowManagerState

variable {s t : WindowManagerState} {d d' id appId : String} {w : Window} {f : Window → Window}
  {p : Pane} {id' : String}

/-- A window after the first window of a desktop that satisfies a condition was changed. -/
lemma window?_editWindow (h : s.window? d id = some w) (hf : ∀ v, (f v).id = v.id)
    (q : Window → Bool) : (s.editWindow d' q f).window? d id = some
      (if d' = d ∧ (s.desktopWindows d).findIdx q = (s.desktopWindows d).findIdx (·.id = id) then f w
      else w) := by
  unfold WindowManagerState.editWindow window?
  rw [desktopWindows_setWindows]
  by_cases hd : d' = d
  · subst hd
    rw [if_pos rfl, find?_modify_of_find? h fun v => by rw [hf]]
    simp
  · rw [if_neg (Ne.symm hd), if_neg fun hboth => hd hboth.1]
    exact h

/-- The id of a window. -/
lemma id_of_window? (h : s.window? d id = some w) : w.id = id := by
  simpa using List.find?_some h

/-- A window after its number was changed. -/
lemma window?_maybeCompact (h : s.window? d id = some w) :
    ∃ z, s.maybeCompactZIndexes.window? d id = some { w with zIndex := z } := by
  let face : Window → Window := fun v => { v with zIndex := 0 }
  have hmap : ∀ t : WindowManagerState, (t.window? d id).map face =
      ((t.desktopWindows d).map face).find? (·.id = id) := by
    intro t
    rw [List.find?_map]
    rfl
  have hface : (s.maybeCompactZIndexes.window? d id).map face = some (face w) := by
    rw [hmap, map_maybeCompact_of_eq fun _ _ => rfl, ← hmap, h]
    rfl
  obtain ⟨v, hv, heq⟩ := Option.map_eq_some_iff.mp hface
  refine ⟨v.zIndex, hv.trans (congrArg some ?_)⟩
  calc v = { face v with zIndex := v.zIndex } := rfl
    _ = { face w with zIndex := v.zIndex } := by rw [heq]
    _ = { w with zIndex := v.zIndex } := rfl

namespace Shows

/-- Only windows and what is kept for them matter. -/
lemma congr (h : s.Shows d id appId p) (hwindows : t.windows = s.windows)
    (hrects : t.preMaximizeRects = s.preMaximizeRects) : t.Shows d id appId p := by
  obtain ⟨hwindow, hrect⟩ := h
  refine ⟨?_, by rw [hrects]; exact hrect⟩
  unfold window? desktopWindows
  rw [hwindows]
  exact hwindow

/-- Numbering anew does not matter. -/
lemma maybeCompact (h : s.Shows d id appId p) : s.maybeCompactZIndexes.Shows d id appId p := by
  obtain ⟨⟨z, hwindow⟩, hrect⟩ := h
  obtain ⟨z', hz'⟩ := window?_maybeCompact hwindow
  refine ⟨⟨z', hz'⟩, ?_⟩
  unfold maybeCompactZIndexes
  split
  · exact hrect
  · exact hrect

/-- The windows of a desktop change, and the window is among them. -/
lemma setWindows (h : s.Shows d id appId p) (d' : String) (windows : List Window)
    (hwindows : d' = d → ∃ z, windows.find? (·.id = id) =
      some { p.geometry with id, appId, state := p.state, zIndex := z }) :
    (s.setWindows d' windows).Shows d id appId p := by
  obtain ⟨hwindow, hrect⟩ := h
  refine ⟨?_, hrect⟩
  unfold window?
  rw [desktopWindows_setWindows]
  by_cases hd : d' = d
  · rw [if_pos hd.symm]
    exact hwindows hd
  · rw [if_neg (Ne.symm hd)]
    exact hwindow

/-- Another window is changed. -/
lemma editOther (h : s.Shows d id appId p) (d' : String) (q : Window → Bool)
    (f : Window → Window) (hf : ∀ v, (f v).id = v.id)
    (hother : ∀ w, s.window? d id = some w → w.appId = appId → d' = d → q w = false) :
    (s.editWindow d' q f).Shows d id appId p := by
  obtain ⟨⟨z, hwindow⟩, hrect⟩ := h
  refine ⟨⟨z, (window?_editWindow hwindow hf q).trans (congrArg some (if_neg ?_))⟩, hrect⟩
  rintro ⟨hd, heq⟩
  exact findIdx_ne_of_find? hwindow (hother _ hwindow rfl hd) heq

/-- The window is changed. -/
lemma editSelf (h : s.Shows d id appId p) (q : Window → Bool) (f : Window → Window)
    (state : WindowState) (geometry : WindowGeometry) (hf : ∀ v, (f v).id = v.id)
    (hself : ∀ w, s.window? d id = some w → w.appId = appId →
      (s.desktopWindows d).findIdx q = (s.desktopWindows d).findIdx (·.id = id))
    (hnew : ∀ z, ∃ z', f { p.geometry with id, appId, state := p.state, zIndex := z } =
      { geometry with id, appId, state, zIndex := z' }) :
    (s.editWindow d q f).Shows d id appId { p with state, geometry } := by
  obtain ⟨⟨z, hwindow⟩, hrect⟩ := h
  obtain ⟨z', hz'⟩ := hnew z
  refine ⟨⟨z', (window?_editWindow hwindow hf q).trans ?_⟩, hrect⟩
  rw [if_pos ⟨rfl, hself _ hwindow rfl⟩, hz']

/-- An app is opened. -/
lemma openApp (h : s.Shows d id appId p) (happs : ((s.desktopWindows d).map (·.appId)).Nodup)
    (viewport : Viewport) (freshId appId' : String) (defaultRect : PartialWindow) :
    (s.openApp d' viewport freshId appId' defaultRect).Shows d id appId
      (p.step (if d' = d ∧ appId' = appId then .openApp else .none)) := by
  unfold WindowManagerState.openApp
  split
  · rename_i existing hfind
    refine (Shows.maybeCompact ?_).congr rfl rfl
    by_cases hself : d' = d ∧ appId' = appId
    · obtain ⟨rfl, rfl⟩ := hself
      rw [if_pos ⟨rfl, rfl⟩]
      have hedit := h.editSelf (·.appId = appId')
        (fun w => { w with state := .normal, zIndex := s.nextZIndex }) .normal p.geometry
        (fun _ => rfl) (fun w hw happ => by rw [← happ]; exact findIdx_appId hw happs)
        fun z => ⟨_, rfl⟩
      exact hedit.congr rfl rfl
    · rw [if_neg hself]
      have hedit := h.editOther d' (·.appId = appId')
        (fun w => { w with state := .normal, zIndex := s.nextZIndex }) (fun _ => rfl)
        fun w hw happ hd => decide_eq_false fun heq => hself ⟨hd, heq.symm.trans happ⟩
      exact hedit.congr rfl rfl
  · rename_i hfind
    obtain ⟨z, hwindow⟩ := h.window
    have hself : ¬ (d' = d ∧ appId' = appId) := by
      rintro ⟨rfl, rfl⟩
      exact List.find?_eq_none.mp hfind _ (List.mem_of_find?_eq_some hwindow) (decide_eq_true rfl)
    rw [if_neg hself]
    have hpush := h.setWindows d' (s.desktopWindows d' ++
      [newWindow viewport freshId appId' defaultRect s.nextZIndex]) fun hd => ⟨z, by
        subst hd
        rw [List.find?_append]
        exact (congrArg (Option.or · _) hwindow).trans rfl⟩
    exact Shows.maybeCompact (hpush.congr rfl rfl)

/-- Another window is closed. -/
lemma closeWindow (h : s.Shows d id appId p) (hne : id' ≠ id) :
    (s.closeWindow d' id').Shows d id appId p := by
  obtain ⟨z, hwindow⟩ := h.window
  have hleft : d' = d → ((s.desktopWindows d').filter (·.id ≠ id')).find? (·.id = id) =
      some { p.geometry with id, appId, state := p.state, zIndex := z } := by
    rintro rfl
    rw [List.find?_filter, ← hwindow]
    refine congrArg (fun q => (s.desktopWindows d').find? q) (funext fun v => ?_)
    by_cases hv : v.id = id
    · simp [hv, Ne.symm hne]
    · simp [hv]
  have hclosed : ({ s.setWindows d' ((s.desktopWindows d').filter (·.id ≠ id')) with
      preMaximizeRects := s.preMaximizeRects.delete id' } : WindowManagerState).Shows d id appId p := by
    refine ⟨(h.setWindows d' _ fun hd => ⟨z, hleft hd⟩).window, ?_⟩
    show (s.preMaximizeRects.delete id').get? id = p.rect
    rw [Record.get?_delete, if_neg (Ne.symm hne), h.rect]
  refine Shows.maybeCompact ?_
  unfold closing
  dsimp only
  split
  · split
    · rename_i top place htop
      -- The topmost of the windows that are left is raised.
      have hraised := hclosed.setWindows d' (((s.desktopWindows d').filter
        (·.id ≠ id')).modify place fun w => { w with zIndex := s.nextZIndex }) fun hd => by
          have hmodify := find?_modify_of_find?
            (f := fun w => { w with zIndex := s.nextZIndex }) (hleft hd) (fun _ => rfl) place
          split at hmodify
          · exact ⟨_, hmodify⟩
          · exact ⟨_, hmodify⟩
      exact hraised.congr rfl rfl
    · exact hclosed.congr rfl rfl
  · exact hclosed

/-- A window is raised. -/
lemma focusWindow (h : s.Shows d id appId p) (id' : String) :
    (s.focusWindow d' id').Shows d id appId p := by
  unfold WindowManagerState.focusWindow
  split
  · refine (Shows.maybeCompact ?_).congr rfl rfl
    by_cases hself : d' = d ∧ id' = id
    · obtain ⟨rfl, rfl⟩ := hself
      have hedit := h.editSelf (·.id = id') (fun w => { w with zIndex := s.nextZIndex }) p.state
        p.geometry (fun _ => rfl) (fun _ _ _ => rfl) fun z => ⟨_, rfl⟩
      exact hedit.congr rfl rfl
    · have hedit := h.editOther d' (·.id = id') (fun w => { w with zIndex := s.nextZIndex })
        (fun _ => rfl)
        fun w hw _ hd => decide_eq_false fun heq => hself ⟨hd, heq.symm.trans (id_of_window? hw)⟩
      exact hedit.congr rfl rfl
  · exact h.congr rfl rfl

/-- A window that an operation names, and that is not the window, is another one. -/
lemma names_of_not (hself : ¬ (d' = d ∧ id' = id)) (w : Window) (hw : s.window? d id = some w)
    (hd : d' = d) : decide (w.id = id') = false :=
  decide_eq_false fun heq => hself ⟨hd, heq.symm.trans (id_of_window? hw)⟩

/-- Another window is placed. -/
lemma moveWindow (h : s.Shows d id appId p) (hself : ¬ (d' = d ∧ id' = id)) (rect : WindowGeometry) :
    (s.moveWindow d' id' rect).Shows d id appId p := by
  unfold WindowManagerState.moveWindow
  split
  · exact h
  · split
    · exact h
    · exact h.editOther d' _ _ (fun _ => rfl) fun w hw _ hd => names_of_not hself w hw hd

/-- A window is minimized. -/
lemma minimizeWindow (h : s.Shows d id appId p) (d' id' : String) :
    (s.minimizeWindow d' id').Shows d id appId
      (p.step (if d' = d ∧ id' = id then .minimize else .none)) := by
  obtain ⟨z, hwindow⟩ := h.window
  unfold WindowManagerState.minimizeWindow
  by_cases hself : d' = d ∧ id' = id
  · obtain ⟨rfl, rfl⟩ := hself
    rw [if_pos ⟨rfl, rfl⟩, show (s.desktopWindows d').find? _ = _ from hwindow]
    exact h.editSelf _ _ .minimized p.geometry (fun _ => rfl) (fun _ _ _ => rfl) fun z => ⟨z, rfl⟩
  · rw [if_neg hself]
    split
    · exact h
    · exact h.editOther d' _ _ (fun _ => rfl) fun w hw _ hd => names_of_not hself w hw hd

/-- What is kept for another window changes. -/
lemma setRects (h : s.Shows d id appId p) {rects : Record WindowGeometry}
    (hrects : rects.get? id = s.preMaximizeRects.get? id) :
    Shows { s with preMaximizeRects := rects } d id appId p :=
  ⟨h.window, hrects.trans h.rect⟩

/-- A window is maximized. -/
lemma maximizeWindow (h : s.Shows d id appId p) (viewport : Viewport) (hdesktop : id' = id → d' = d) :
    (s.maximizeWindow d' id' viewport).Shows d id appId
      (p.step (if d' = d ∧ id' = id then .maximize (maximizedRect viewport) else .none)) := by
  obtain ⟨z, hwindow⟩ := h.window
  unfold WindowManagerState.maximizeWindow
  by_cases hid : id' = id
  · obtain rfl := hdesktop hid
    subst hid
    rw [if_pos ⟨rfl, rfl⟩, show (s.desktopWindows d').find? _ = _ from hwindow]
    have hedit := h.editSelf (·.id = id') (fun w => { w with
      toWindowGeometry := maximizedRect viewport, state := .maximized }) .maximized _
      (fun _ => rfl) (fun _ _ _ => rfl) fun z => ⟨z, rfl⟩
    refine ⟨hedit.window, ?_⟩
    dsimp only [Pane.step]
    split
    · exact h.rect
    · rw [Record.get?_set, if_pos rfl]
  · have hself : ¬ (d' = d ∧ id' = id) := fun hboth => hid hboth.2
    rw [if_neg hself]
    split
    · exact h
    · rename_i win hfind
      have hedit := h.editOther d' (·.id = id') (fun w => { w with
        toWindowGeometry := maximizedRect viewport, state := .maximized }) (fun _ => rfl)
        fun w hw _ hd => names_of_not hself w hw hd
      refine hedit.setRects ?_
      split
      · rfl
      · exact (Record.get?_set ..).trans (if_neg (Ne.symm hid))

/-- A window is restored. -/
lemma restoreWindow (h : s.Shows d id appId p) (hdesktop : id' = id → d' = d) :
    (s.restoreWindow d' id').Shows d id appId
      (p.step (if d' = d ∧ id' = id then .restore else .none)) := by
  obtain ⟨z, hwindow⟩ := h.window
  unfold WindowManagerState.restoreWindow
  by_cases hid : id' = id
  · obtain rfl := hdesktop hid
    subst hid
    rw [if_pos ⟨rfl, rfl⟩, show (s.desktopWindows d').find? _ = _ from hwindow, h.rect]
    dsimp only
    cases hrect : p.rect with
    | some prevRect =>
      have hedit := h.editSelf (·.id = id') (fun w => { w with
        toWindowGeometry := prevRect, state := .normal }) .normal prevRect (fun _ => rfl)
        (fun _ _ _ => rfl) fun z => ⟨z, rfl⟩
      refine ⟨?_, ?_⟩
      · dsimp only [Pane.step]
        rw [hrect]
        exact hedit.window
      · exact (Record.get?_delete ..).trans (if_pos rfl)
    | none =>
      have hedit := h.editSelf (·.id = id') (fun w => { w with state := .normal }) .normal
        p.geometry (fun _ => rfl) (fun _ _ _ => rfl) fun z => ⟨z, rfl⟩
      refine ⟨?_, h.rect.trans hrect⟩
      dsimp only [Pane.step]
      rw [hrect]
      exact hedit.window
  · have hself : ¬ (d' = d ∧ id' = id) := fun hboth => hid hboth.2
    rw [if_neg hself]
    split
    · exact h
    · split
      · rename_i prevRect _
        have hedit := h.editOther d' (·.id = id') (fun w => { w with
          toWindowGeometry := prevRect, state := .normal }) (fun _ => rfl)
          fun w hw _ hd => names_of_not hself w hw hd
        exact hedit.setRects ((Record.get?_delete ..).trans (if_neg (Ne.symm hid)))
      · exact h.editOther d' _ _ (fun _ => rfl) fun w hw _ hd => names_of_not hself w hw hd

/-- **An operation of the store** acts on a window as on a window by itself. -/
theorem perform (h : s.Shows d id appId p) (happs : ((s.desktopWindows d).map (·.appId)).Nodup)
    {op : WindowOperation} (hspares : op.Spares d id) :
    (s.perform op).Shows d id appId (p.step (op.event d id appId)) := by
  cases op with
  | openApp viewport freshId d' appId' defaultRect =>
    exact h.openApp happs viewport freshId appId' defaultRect
  | closeWindow d' id' => exact h.closeWindow hspares
  | focusWindow d' id' => exact h.focusWindow id'
  | moveWindow d' id' rect => exact h.moveWindow hspares rect
  | minimizeWindow d' id' => exact h.minimizeWindow d' id'
  | maximizeWindow viewport d' id' => exact h.maximizeWindow viewport hspares
  | restoreWindow d' id' => exact h.restoreWindow hspares
  | setActiveDesktop d' => exact h.congr rfl rfl
  | setViewMode mode => exact h.congr rfl rfl
  | reset => exact hspares.elim

end Shows

/-! ## Runs -/

/-- If a window of a desktop is in its normal state, it has its place, and nothing is kept for
it. -/
def Remembers (s : WindowManagerState) (d id : String) (g : WindowGeometry) : Prop :=
  ∀ w, s.window? d id = some w → w.state = .normal →
    w.toWindowGeometry = g ∧ s.preMaximizeRects.get? id = none

/-- **The operations that do not lose the place of a window**: its app is opened only if nothing is
kept for it, and it is maximized only if it is not minimized while another place than its own is
kept for it. -/
def KeepsRect (s : WindowManagerState) (d id appId : String) (op : WindowOperation) : Prop :=
  ∀ p, s.pane? d id = some p → p.Keeps (op.event d id appId)

/-- What is said of a window of the store, said of it by itself. -/
lemma Shows.remembers_iff {g : WindowGeometry} (h : s.Shows d id appId p) :
    s.Remembers d id g ↔ p.Placed g := by
  obtain ⟨⟨z, hwindow⟩, hrect⟩ := h
  constructor
  · intro hremembers hnormal
    obtain ⟨hgeometry, hnone⟩ := hremembers _ hwindow hnormal
    exact ⟨hgeometry, hrect.symm.trans hnone⟩
  · intro hplaced w hw hnormal
    obtain rfl := Option.some.inj (hwindow.symm.trans hw)
    obtain ⟨hgeometry, hnone⟩ := hplaced hnormal
    exact ⟨hgeometry, hrect.trans hnone⟩

/-- A window in its normal state for which nothing is kept. -/
lemma Shows.of_normal (h : s.window? d id = some w) (hnormal : w.state = .normal)
    (hrect : s.preMaximizeRects.get? id = none) :
    s.Shows d id w.appId ⟨.normal, w.toWindowGeometry, none⟩ := by
  obtain ⟨geometry, id', appId, state, z⟩ := w
  obtain rfl := id_of_window? h
  obtain rfl : state = .normal := hnormal
  exact ⟨⟨z, h⟩, hrect⟩

end WindowManagerState

open WindowManagerState

section Runs

variable {s₀ s : WindowManagerState} {d id : String} {w : Window}
  {tr₀ tr : List (WindowManagerState × WindowOperation)}

/-- **The place of a window is remembered.**  A window is in its normal state, and nothing is kept
for it.  After any operations that neither move nor close it nor lose its place, whenever it is in
its normal state again it has its place, and nothing is kept for it.

**Proof sketch.** The store acts on the window as on a window by itself, because the apps of a
desktop are distinct.  There, either nothing is kept and the window has its place, or the place is
kept. -/
theorem geometry_remembered (h₀ : Run (· = initialState) WindowStep tr₀ s₀)
    (hw : s₀.window? d id = some w) (hnormal : w.state = .normal)
    (hrect : s₀.preMaximizeRects.get? id = none) (h : Run (· = s₀) WindowStep tr s)
    (hspares : ∀ e ∈ tr, e.2.Spares d id) (hkeeps : ∀ e ∈ tr, e.1.KeepsRect d id w.appId e.2) :
    (∀ e ∈ tr, e.1.Remembers d id w.toWindowGeometry) ∧ s.Remembers d id w.toWindowGeometry := by
  suffices hinv : (∀ e ∈ tr, e.1.Remembers d id w.toWindowGeometry) ∧ s.Stacked ∧
      ∃ p, s.Shows d id w.appId p ∧ p.Shape w.toWindowGeometry by
    obtain ⟨hbefore, -, p, hshows, hshape⟩ := hinv
    exact ⟨hbefore, hshows.remembers_iff.mpr hshape.placed⟩
  induction h with
  | start hs =>
    obtain rfl := hs
    exact ⟨fun e he => absurd he List.not_mem_nil, stacked_of_run h₀, _,
      .of_normal hw hnormal hrect, .inl ⟨rfl, rfl, .inl rfl⟩⟩
  | @snoc tr s s' op hrun hstep ih =>
    obtain ⟨hbefore, hstacked, p, hshows, hshape⟩ :=
      ih (fun e he => hspares e (List.mem_cons_of_mem _ he))
        fun e he => hkeeps e (List.mem_cons_of_mem _ he)
    refine ⟨fun e he => ?_, hstep.stacked hstacked, p.step (op.event d id w.appId), ?_, ?_⟩
    · rcases List.mem_cons.mp he with rfl | he
      · exact hshows.remembers_iff.mpr hshape.placed
      · exact hbefore e he
    · obtain rfl := hstep
      exact hshows.perform (hstacked.apps d) (hspares _ List.mem_cons_self)
    · exact hshape.step (hkeeps _ List.mem_cons_self p hshows.pane?)

/-- **The place is lost** by an operation of another kind: after it, or after the window is restored
then, the window is in its normal state without its place, or something is still kept for it. -/
theorem geometry_forgotten {appId : String} {p : Pane} {g : WindowGeometry} {op : WindowOperation}
    (hstacked : s.Stacked) (hshows : s.Shows d id appId p) (hshape : p.Shape g)
    (hspares : op.Spares d id) (hkeeps : ¬ s.KeepsRect d id appId op) :
    ¬ (s.perform op).Remembers d id g ∨
      ¬ ((s.perform op).perform (.restoreWindow d id)).Remembers d id g := by
  have hlost : ¬ p.Keeps (op.event d id appId) := fun hkeep => hkeeps fun p' hp' => by
    obtain rfl := Option.some.inj (hshows.pane?.symm.trans hp')
    exact hkeep
  have hafter := hshows.perform (hstacked.apps d) hspares
  have hrestored := @Shows.restoreWindow _ d d id appId _ id hafter fun _ => rfl
  rw [if_pos ⟨rfl, rfl⟩] at hrestored
  exact (Pane.not_placed_of_not_keeps hshape hlost).imp (mt hafter.remembers_iff.mp)
    (mt hrestored.remembers_iff.mp)

end Runs

namespace Scenario

/-- A window is opened in its normal state. -/
def notesOpened : List WindowOperation :=
  [.openApp viewport "w1" "acme" "notes" ⟨some 10, some 20, some 300, some 200, none⟩]

/-- The store with this window. -/
def notesWindows : WindowManagerState := notesOpened.foldl (·.perform ·) initialState

/-- The window. -/
def notesWindow : Window :=
  { x := 10, y := 20, width := 300, height := 200, id := "w1", appId := "notes", state := .normal
    zIndex := 100 }

/-- The window is maximized, and maximized again after it was minimized. -/
def maximizedTwice : List WindowOperation :=
  [.maximizeWindow viewport "acme" "w1", .minimizeWindow "acme" "w1",
    .maximizeWindow viewport "acme" "w1", .restoreWindow "acme" "w1"]

/-- The window is maximized, and restored. -/
def maximizedOnce : List WindowOperation :=
  [.maximizeWindow viewport "acme" "w1", .minimizeWindow "acme" "w1", .restoreWindow "acme" "w1"]

end Scenario

open Scenario

/-- A window that is maximized, minimized and restored. -/
theorem geometry_remembered_once :
    (maximizedOnce.foldl (·.perform ·) notesWindows).Remembers "acme" "w1" ⟨10, 20, 300, 200⟩ := by
  have hwindow : notesWindows.window? "acme" "w1" = some notesWindow := rfl
  refine (geometry_remembered (run_performed notesOpened (.start rfl)) hwindow rfl rfl
    (run_performed maximizedOnce (.start rfl)) ?_ ?_).2
  · intro e he
    simp only [maximizedOnce, performed, List.mem_cons, List.not_mem_nil, or_false] at he
    rcases he with rfl | rfl | rfl
    · exact fun _ => rfl
    · trivial
    · exact fun _ => rfl
  · intro e he p hp
    simp only [maximizedOnce, performed, List.mem_cons, List.not_mem_nil, or_false] at he
    rcases he with rfl | rfl | rfl
    · trivial
    · trivial
    · obtain rfl := Option.some.inj hp
      exact nofun

/-- **A place that is lost.**  A window is maximized, minimized, maximized and restored; it is in
its normal state then, as large as the viewport. -/
theorem geometry_lost :
    Run (· = initialState) WindowStep (performed notesOpened initialState []) notesWindows ∧
      notesWindows.window? "acme" "w1" = some notesWindow ∧ notesWindow.state = .normal ∧
      notesWindows.preMaximizeRects.get? "w1" = none ∧
      Run (· = notesWindows) WindowStep (performed maximizedTwice notesWindows [])
        (maximizedTwice.foldl (·.perform ·) notesWindows) ∧
      (∀ e ∈ performed maximizedTwice notesWindows [], e.2.Spares "acme" "w1") ∧
      ¬ (maximizedTwice.foldl (·.perform ·) notesWindows).Remembers "acme" "w1"
        notesWindow.toWindowGeometry := by
  refine ⟨run_performed notesOpened (.start rfl), rfl, rfl, rfl,
    run_performed maximizedTwice (.start rfl), ?_, fun hremembers => ?_⟩
  · intro e he
    simp only [maximizedTwice, performed, List.mem_cons, List.not_mem_nil, or_false] at he
    rcases he with rfl | rfl | rfl | rfl
    · exact fun _ => rfl
    · exact fun _ => rfl
    · trivial
    · exact fun _ => rfl
  · obtain ⟨hgeometry, -⟩ := hremembers _ rfl rfl
    have hwidth := congrArg WindowGeometry.width hgeometry
    revert hwidth
    decide +kernel

end Klynt
