import Klynt.Desktop.ZOrder

set_option relaxedAutoImplicit false
set_option autoImplicit false

/-!
# The active window

The active window of a desktop exists, is in sight, and is the topmost one, as long as nothing
puts a window out of sight that is active or becomes active, and only windows that exist are
focused.

## Main definitions

* `WindowManagerState.ActiveInFront` — what is expected of the active windows.
* `KeepsActive` — the operations that keep it.

## Main results

* `WindowStep.activeLeads` — such an operation keeps the invariant.
* `active_in_front` — after a run of such operations, active windows are as expected.
* `active_minimized` — after another run, one is not.
-/

namespace Klynt

/-! ## Changing one window of a list -/

variable {windows : List Window} {f : Window → Window} {p : Window → Bool} {i : ℕ} {w : Window}

/-- Where a window goes when the first one that satisfies a condition is changed. -/
lemma mem_modify_findIdx (hw : w ∈ windows) :
    w ∈ windows.modify (windows.findIdx p) f ∨
      p w = true ∧ f w ∈ windows.modify (windows.findIdx p) f := by
  obtain ⟨i, hi⟩ := List.mem_iff_getElem?.mp hw
  by_cases h : windows.findIdx p = i
  · subst h
    obtain ⟨hlt, hget⟩ := List.getElem?_eq_some_iff.mp hi
    refine .inr ⟨?_, List.mem_of_getElem? (i := windows.findIdx p) ?_⟩
    · rw [← hget]
      exact List.findIdx_getElem
    · rw [List.getElem?_modify_eq, hi]
      rfl
  · refine .inl (List.mem_of_getElem? (i := i) ?_)
    rw [List.getElem?_modify_ne _ _ h, hi]

namespace WindowManagerState

variable {s t : WindowManagerState} {d : String}

/-! ## The topmost window of a desktop -/

/-- A window is the topmost of a desktop. -/
def Leads (s : WindowManagerState) (d : String) (w : Window) : Prop :=
  w ∈ s.desktopWindows d ∧ ∀ v ∈ s.desktopWindows d, v.zIndex ≤ w.zIndex

/-- The topmost window of a desktop with known windows. -/
lemma leads_of_eq (hread : s.desktopWindows d = windows) (hw : w ∈ windows)
    (hlead : ∀ v ∈ windows, v.zIndex ≤ w.zIndex) : s.Leads d w := by
  unfold Leads
  rw [hread]
  exact ⟨hw, hlead⟩

/-- A window above all windows is the topmost of its desktop. -/
lemma OnTop.leads (h : s.OnTop d i w) : s.Leads d w := by
  refine ⟨List.mem_of_getElem? h.1, fun v hv => ?_⟩
  obtain ⟨j, hj⟩ := List.mem_iff_getElem?.mp hv
  by_cases hij : j = i
  · subst hij
    obtain rfl : w = v := Option.some.inj (h.1.symm.trans hj)
    exact le_refl _
  · exact (h.2 d j v hj fun heq => hij (Prod.mk.inj heq).2).le

/-- **Numbering anew keeps the topmost window.** -/
lemma Leads.maybeCompact (ho : s.Ordered) (h : s.Leads d w) :
    ∃ z, s.maybeCompactZIndexes.Leads d { w with zIndex := z } := by
  obtain ⟨hw, hlead⟩ := h
  unfold maybeCompactZIndexes
  split
  · obtain ⟨i, hi⟩ := List.mem_iff_getElem?.mp hw
    refine ⟨zIndexBase + sortRank (·.zIndex) s.placedWindows (d, i), ?_, ?_⟩
    · refine List.mem_of_getElem? (i := i) ?_
      rw [getElem?_compact, hi]
      rfl
    · intro v hv
      obtain ⟨j, hj⟩ := List.mem_iff_getElem?.mp hv
      rw [getElem?_compact] at hj
      obtain ⟨u, hu, rfl⟩ := Option.map_eq_some_iff.mp hj
      refine Nat.add_le_add_left ?_ _
      rcases (hlead u (List.mem_of_getElem? hu)).lt_or_eq with hlt | heq
      · exact (sortRank_lt_sortRank (nodup_places s) (mem_placedWindows.mpr hu)
          (mem_placedWindows.mpr hi) hlt).le
      · -- Numbers are distinct, so that it is the same place.
        have hnodup : ((s.desktopWindows d).map (·.zIndex)).Nodup := by
          have hall := (ho.stack_at d).distinct
          rw [List.map_append] at hall
          exact hall.of_append_left
        have hlt : j < ((s.desktopWindows d).map (·.zIndex)).length := by
          rw [List.length_map]
          exact (List.getElem?_eq_some_iff.mp hu).1
        have hplace : j = i := (List.getElem?_inj hlt hnodup).mp <| by
          rw [List.getElem?_map, List.getElem?_map, hu, hi]
          exact congrArg some heq
        rw [hplace]
  · exact ⟨w.zIndex, hw, hlead⟩

/-! ## The invariant -/

/-- The active window of every desktop is in sight, and the topmost of all its windows. -/
def ActiveLeads (s : WindowManagerState) : Prop :=
  ∀ d id, s.active d = some id → ∃ w, s.Leads d w ∧ w.id = id ∧ w.state ≠ .minimized

/-- The active window after it is set. -/
@[simp] lemma active_setActive {e : String} {id : Option String} :
    (s.setActive d id).active e = if e = d then id else s.active e := by
  unfold active setActive
  rw [Record.get?_set]
  split <;> rfl

/-- Numbering anew does not change what is active. -/
lemma active_maybeCompact : s.maybeCompactZIndexes.active d = s.active d := by
  unfold maybeCompactZIndexes
  split <;> rfl

/-- Whether a window is made active before or after does not matter. -/
lemma setActive_maybeCompact {id : Option String} :
    s.maybeCompactZIndexes.setActive d id = (s.setActive d id).maybeCompactZIndexes := by
  unfold maybeCompactZIndexes
  split_ifs with hs ht ht
  · rfl
  · exact absurd hs ht
  · exact absurd ht hs
  · rfl

namespace ActiveLeads

/-- Numbering anew keeps the invariant. -/
lemma maybeCompact (ho : s.Ordered) (h : s.ActiveLeads) : s.maybeCompactZIndexes.ActiveLeads := by
  intro d id hid
  rw [active_maybeCompact] at hid
  obtain ⟨w, hw, rfl, hstate⟩ := h d id hid
  obtain ⟨z, hz⟩ := hw.maybeCompact ho
  exact ⟨_, hz, rfl, hstate⟩

/-- One desktop changes. -/
lemma of_desktop (h : s.ActiveLeads)
    (hrest : ∀ e, e ≠ d → t.desktopWindows e = s.desktopWindows e ∧ t.active e = s.active e)
    (hd : ∀ id, t.active d = some id → ∃ w, t.Leads d w ∧ w.id = id ∧ w.state ≠ .minimized) :
    t.ActiveLeads := by
  intro e id hid
  by_cases he : e = d
  · rw [he] at hid ⊢
    exact hd id hid
  · obtain ⟨hwindows, hactive⟩ := hrest e he
    rw [hactive] at hid
    unfold Leads
    rw [hwindows]
    exact h e id hid

/-- Only windows and what is active matter. -/
lemma congr (h : s.ActiveLeads) (hw : t.windows = s.windows)
    (ha : t.activeWindowId = s.activeWindowId) : t.ActiveLeads := by
  intro d id hid
  have hwindows : t.desktopWindows d = s.desktopWindows d := by
    unfold desktopWindows
    rw [hw]
  have hactive : t.active d = s.active d := by
    unfold active
    rw [ha]
  unfold Leads
  rw [hwindows]
  exact h d id (hactive.symm.trans hid)

/-- A window is changed that stays in sight if it is the active one. -/
lemma editWindow (h : s.ActiveLeads) (hf : ∀ w, (f w).id = w.id ∧ (f w).zIndex = w.zIndex)
    (hstate : ∀ w, p w = true → s.active d = some w.id → w.state ≠ .minimized →
      (f w).state ≠ .minimized) : (s.editWindow d p f).ActiveLeads := by
  have hread : ∀ e, (s.editWindow d p f).desktopWindows e = if e = d then
      (s.desktopWindows d).modify ((s.desktopWindows d).findIdx p) f else s.desktopWindows e :=
    fun e => desktopWindows_setWindows
  refine h.of_desktop (d := d) (fun e he => ⟨by rw [hread, if_neg he], rfl⟩) ?_
  intro id hid
  obtain ⟨w, ⟨hw, hlead⟩, rfl, hsight⟩ := h d id hid
  have htop : ∀ v ∈ (s.editWindow d p f).desktopWindows d, v.zIndex ≤ w.zIndex := by
    intro v hv
    rw [hread, if_pos rfl] at hv
    obtain ⟨u, hu, rfl | rfl⟩ := of_mem_modify hv
    · exact hlead v hu
    · rw [(hf u).2]
      exact hlead u hu
  unfold Leads
  rcases mem_modify_findIdx (p := p) (f := f) hw with hmem | ⟨hp, hmem⟩
  · refine ⟨w, ⟨?_, htop⟩, rfl, hsight⟩
    rw [hread, if_pos rfl]
    exact hmem
  · refine ⟨f w, ⟨?_, ?_⟩, (hf w).1, hstate w hp hid hsight⟩
    · rw [hread, if_pos rfl]
      exact hmem
    · rw [(hf w).2]
      exact htop

/-- A window is raised and becomes active. -/
lemma raiseWindow (h : s.ActiveLeads) (ho : s.Ordered) (hw : (s.desktopWindows d).find? p = some w)
    (hid : (f w).id = w.id) (hstate : (f w).state ≠ .minimized) :
    ((s.raiseWindow d p f).setActive d (some w.id)).ActiveLeads := by
  refine h.of_desktop (d := d) (fun e he => ⟨?_, ?_⟩) ?_
  · exact desktopWindows_setWindows.trans (if_neg he)
  · exact active_setActive.trans (if_neg he)
  · intro id hactive
    rw [active_setActive, if_pos rfl] at hactive
    obtain rfl := Option.some.inj hactive
    exact ⟨_, (ho.onTop_raiseWindow f hw).leads, hid, hstate⟩

end ActiveLeads

/-! ## The operations -/

/-- **What keeps the active windows in front.**  Of an operation, in the state before it: only
windows in sight are focused, an app is not opened out of sight, the active window is not put out
of sight, and where it is closed the topmost other window is in sight. -/
def KeepsActive (s : WindowManagerState) : WindowOperation → Prop
  | .openApp _ _ d appId defaultRect =>
    (s.desktopWindows d).find? (·.appId = appId) = none → defaultRect.state ≠ some .minimized
  | .focusWindow d windowId =>
    ∃ w, (s.desktopWindows d).find? (·.id = windowId) = some w ∧ w.state ≠ .minimized
  | .closeWindow d windowId => s.active d = some windowId →
    ∀ w i, topmost ((s.desktopWindows d).filter (·.id ≠ windowId)) = some (w, i) →
      w.state ≠ .minimized
  | .minimizeWindow d windowId => s.active d ≠ some windowId
  | _ => True

/-- Opening an app. -/
lemma ActiveLeads.openApp (h : s.ActiveLeads) (ho : s.Ordered) {viewport : Viewport}
    {freshId appId : String} {defaultRect : PartialWindow}
    (hc : s.KeepsActive (.openApp viewport freshId d appId defaultRect)) :
    (s.openApp d viewport freshId appId defaultRect).ActiveLeads := by
  unfold WindowManagerState.openApp
  split
  · rename_i existing hfind
    rw [setActive_maybeCompact]
    refine ActiveLeads.maybeCompact ?_ (h.raiseWindow ho hfind rfl nofun)
    have hraised := ho.raiseWindow (f := fun w => { w with state := .normal }) (fun _ => rfl) hfind
    exact hraised.congr rfl rfl
  · rename_i hfind
    have hnew : ∀ v ∈ s.desktopWindows d, v.appId ≠ appId := fun v hv heq =>
      List.find?_eq_none.mp hfind v hv (decide_eq_true heq)
    refine ActiveLeads.maybeCompact ((ho.push rfl hnew).congr rfl rfl) ?_
    refine h.of_desktop (d := d) (fun e he => ⟨?_, ?_⟩) ?_
    · exact desktopWindows_setWindows.trans (if_neg he)
    · exact active_setActive.trans (if_neg he)
    · intro id hid
      obtain rfl := Option.some.inj ((active_setActive.trans (if_pos rfl)).symm.trans hid)
      have htop := ho.onTop_push (d := d)
        (w := newWindow viewport freshId appId defaultRect s.nextZIndex) rfl
      refine ⟨_, (htop.congr rfl).leads, rfl, fun hmin => ?_⟩
      have hstate : defaultRect.state.getD .normal = .minimized := hmin
      cases hrect : defaultRect.state with
      | none =>
        rw [hrect] at hstate
        cases hstate
      | some state =>
        rw [hrect] at hstate
        exact hc hfind (by rw [hrect]; exact congrArg some hstate)

/-- Focusing a window. -/
lemma ActiveLeads.focusWindow (h : s.ActiveLeads) (ho : s.Ordered) {windowId : String}
    (hc : s.KeepsActive (.focusWindow d windowId)) : (s.focusWindow d windowId).ActiveLeads := by
  obtain ⟨w, hfind, hstate⟩ := hc
  have hid : w.id = windowId := by simpa using List.find?_some hfind
  unfold WindowManagerState.focusWindow
  rw [hfind]
  dsimp only
  rw [setActive_maybeCompact, ← hid]
  rw [← hid] at hfind
  refine ActiveLeads.maybeCompact ?_ (h.raiseWindow ho hfind rfl hstate)
  exact (ho.raiseWindow (fun _ => rfl) hfind).congr rfl rfl

/-- Closing a window. -/
lemma ActiveLeads.closeWindow (h : s.ActiveLeads) (ho : s.Ordered) {windowId : String}
    (hc : s.KeepsActive (.closeWindow d windowId)) : (s.closeWindow d windowId).ActiveLeads := by
  refine ActiveLeads.maybeCompact ho.closing ?_
  unfold WindowManagerState.closing
  dsimp only
  split
  · rename_i hactive
    split
    · rename_i top place htop
      obtain ⟨hplace, -⟩ := topmost_eq_some htop
      refine h.of_desktop (d := d) (fun e he => ⟨?_, ?_⟩) ?_
      · exact desktopWindows_setWindows.trans
          ((if_neg he).trans (desktopWindows_setWindows.trans (if_neg he)))
      · exact active_setActive.trans (if_neg he)
      · intro id hid
        obtain rfl := Option.some.inj ((active_setActive.trans (if_pos rfl)).symm.trans hid)
        refine ⟨{ top with zIndex := s.nextZIndex },
          leads_of_eq (desktopWindows_setWindows.trans (if_pos rfl)) ?_ ?_, rfl,
            hc hactive top place htop⟩
        · refine List.mem_of_getElem? (i := place) ?_
          rw [List.getElem?_modify_eq, hplace]
          rfl
        · intro v hv
          obtain ⟨u, hu, rfl | rfl⟩ := of_mem_modify hv
          · exact (ho.stack.below v (mem_allWindows (List.mem_of_mem_filter hu))).le
          · exact le_refl _
    · refine h.of_desktop (d := d) (fun e he => ⟨?_, ?_⟩) ?_
      · exact desktopWindows_setWindows.trans (if_neg he)
      · exact active_setActive.trans (if_neg he)
      · intro id hid
        cases (active_setActive.trans (if_pos rfl)).symm.trans hid
  · rename_i hactive
    refine h.of_desktop (d := d) (fun e he => ⟨?_, rfl⟩) ?_
    · exact desktopWindows_setWindows.trans (if_neg he)
    · intro id hid
      obtain ⟨w, ⟨hw, hlead⟩, rfl, hstate⟩ := h d id hid
      refine ⟨w, leads_of_eq (desktopWindows_setWindows.trans (if_pos rfl)) ?_ ?_, rfl, hstate⟩
      · refine List.mem_filter.mpr ⟨hw, decide_eq_true fun hid' => hactive ?_⟩
        rw [← hid']
        exact hid
      · exact fun v hv => hlead v (List.mem_of_mem_filter hv)

/-- What is expected of the active windows: they exist, are in sight, and are topmost among the
windows in sight. -/
def ActiveInFront (s : WindowManagerState) : Prop :=
  ∀ d id, s.active d = some id → ∃ w ∈ s.desktopWindows d, w.id = id ∧ w.state ≠ .minimized ∧
    ∀ v ∈ s.desktopWindows d, v.state ≠ .minimized → v.zIndex ≤ w.zIndex

/-- The invariant gives what is expected. -/
lemma ActiveLeads.inFront (h : s.ActiveLeads) : s.ActiveInFront := by
  intro d id hid
  obtain ⟨w, ⟨hw, hlead⟩, hwid, hstate⟩ := h d id hid
  exact ⟨w, hw, hwid, hstate, fun v hv _ => hlead v hv⟩

end WindowManagerState

open WindowManagerState

/-- **An operation keeps the invariant** under the condition. -/
theorem WindowStep.activeLeads {s s' : WindowManagerState} {op : WindowOperation} (ho : s.Stacked)
    (h : s.ActiveLeads) (hc : s.KeepsActive op) (hstep : WindowStep s op s') : s'.ActiveLeads := by
  obtain rfl := hstep
  cases op with
  | openApp viewport freshId d appId defaultRect => exact h.openApp ho.toOrdered hc
  | closeWindow d windowId => exact h.closeWindow ho.toOrdered hc
  | focusWindow d windowId => exact h.focusWindow ho.toOrdered hc
  | moveWindow d windowId rect =>
    unfold WindowManagerState.perform WindowManagerState.moveWindow
    dsimp only
    split
    · exact h
    · split
      · exact h
      · exact h.editWindow (fun _ => ⟨rfl, rfl⟩) fun _ _ _ hstate => hstate
  | minimizeWindow d windowId =>
    unfold WindowManagerState.perform WindowManagerState.minimizeWindow
    dsimp only
    split
    · exact h
    · refine h.editWindow (fun _ => ⟨rfl, rfl⟩) fun w hw hactive => ?_
      have hid : w.id = windowId := of_decide_eq_true hw
      exact absurd (hactive.trans (congrArg some hid)) hc
  | maximizeWindow viewport d windowId =>
    unfold WindowManagerState.perform WindowManagerState.maximizeWindow
    dsimp only
    split
    · exact h
    · have hedit := h.editWindow (d := d) (p := (·.id = windowId))
        (f := fun w => { w with
          toWindowGeometry := ⟨0, menubarHeight, viewport.innerWidth,
            viewport.innerHeight - menubarHeight⟩
          state := .maximized }) (fun _ => ⟨rfl, rfl⟩) fun _ _ _ _ => nofun
      exact hedit.congr rfl rfl
  | restoreWindow d windowId =>
    unfold WindowManagerState.perform WindowManagerState.restoreWindow
    dsimp only
    split
    · exact h
    · split
      · rename_i prevRect _
        have hedit := h.editWindow (d := d) (p := (·.id = windowId))
          (f := fun w => { w with toWindowGeometry := prevRect, state := .normal })
          (fun _ => ⟨rfl, rfl⟩) fun _ _ _ _ => nofun
        exact hedit.congr rfl rfl
      · exact h.editWindow (fun _ => ⟨rfl, rfl⟩) fun _ _ _ _ => nofun
  | setActiveDesktop id => exact h.congr rfl rfl
  | setViewMode mode => exact h.congr rfl rfl
  | reset => exact fun d id hid => nomatch hid

/-- **The active windows**: after every run whose operations all satisfy the condition, the active
window of every desktop exists, is in sight, and is the topmost of the windows in sight.

**Proof sketch.** The stronger invariant that the active window is the topmost of *all* windows
of its desktop is kept: opening and focusing raise the window that becomes active, closing raises
the topmost of the others, and the other operations change no number. -/
theorem active_in_front {tr : List (WindowManagerState × WindowOperation)} {s : WindowManagerState}
    (h : Run (· = initialState) WindowStep tr s) (hc : ∀ e ∈ tr, e.1.KeepsActive e.2) :
    s.ActiveInFront := by
  have hinv : s.Stacked ∧ s.ActiveLeads := by
    refine Run.invariant_of_forall (I := fun s => s.Stacked ∧ s.ActiveLeads) ?_ ?_ h hc
    · rintro s rfl
      exact ⟨stacked_initialState, fun d id hid => nomatch hid⟩
    · rintro s op s' ⟨hs, hactive⟩ hc hstep
      exact ⟨hstep.stacked hs, hstep.activeLeads hs hactive hc⟩
  exact hinv.2.inFront

namespace Scenario

/-- An app is opened, and its window is minimized. -/
def openedAndMinimized : List WindowOperation :=
  [.openApp viewport "w1" "acme" "files" .none, .minimizeWindow "acme" "w1"]

end Scenario

open Scenario

/-- The windows of two desktops after the first one was focused again. -/
theorem active_in_front_focused :
    (windowOperations.foldl (·.perform ·) initialState).ActiveInFront := by
  refine active_in_front (run_performed windowOperations (.start rfl)) ?_
  refine List.forall_mem_cons.mpr
    ⟨⟨newWindow viewport "w1" "files" .none 100, by decide +kernel, nofun⟩, ?_⟩
  refine List.forall_mem_cons.mpr ⟨fun _ => nofun, ?_⟩
  exact List.forall_mem_cons.mpr ⟨fun _ => nofun, List.forall_mem_nil _⟩

/-- **The active window can be out of sight**: an app is opened, and its window is minimized. -/
theorem active_minimized :
    Run (· = initialState) WindowStep (performed openedAndMinimized initialState [])
      (openedAndMinimized.foldl (·.perform ·) initialState) ∧
    ¬ (openedAndMinimized.foldl (·.perform ·) initialState).ActiveInFront := by
  refine ⟨run_performed openedAndMinimized (.start rfl), fun h => ?_⟩
  have hactive : ∀ w ∈ ((openedAndMinimized.foldl (·.perform ·) initialState).desktopWindows "acme"),
      w.state = .minimized := by decide +kernel
  obtain ⟨w, hw, -, hstate, -⟩ := h "acme" "w1" (by decide +kernel)
  exact hstate (hactive w hw)

end Klynt
