import Klynt.Lib.Run
import Klynt.Desktop.WindowManager

set_option relaxedAutoImplicit false
set_option autoImplicit false

/-!
# The order of the windows

The numbers of the windows of all desktops are distinct and stay below the counter, the counter
stays bounded, and a desktop has one window an app, after any sequence of operations.

## Main definitions

* `Stack` — windows with distinct numbers below a counter.
* `Stacked` — the invariant of the store.
* `WindowManagerState.OnTop` — a window that is above all others.

## Main results

* `compactZIndexes_order` — numbering anew keeps the order of all windows.
* `WindowStep.stacked` — every operation keeps the invariant.
* `z_order` — the statement above, for every run.
-/

namespace Klynt

/-! ## Lists of windows -/

/-- Windows with distinct numbers below a counter. -/
structure Stack (windows : List Window) (next : ℕ) : Prop where
  /-- Numbers are distinct. -/
  distinct : (windows.map (·.zIndex)).Nodup
  /-- Numbers are below the counter. -/
  below : ∀ w ∈ windows, w.zIndex < next

namespace Stack

variable {windows windows' : List Window} {next : ℕ} {w : Window}

/-- The order of the list does not matter. -/
lemma perm (h : Stack windows next) (hp : windows.Perm windows') : Stack windows' next :=
  ⟨(hp.map _).nodup_iff.mp h.distinct, fun w hw => h.below w (hp.mem_iff.mpr hw)⟩

/-- Windows go away. -/
lemma sublist (h : Stack windows next) (hs : windows'.Sublist windows) : Stack windows' next :=
  ⟨h.distinct.sublist (hs.map _), fun w hw => h.below w (hs.subset hw)⟩

/-- A window gets the number of the counter. -/
lemma push (h : Stack windows next) (hw : w.zIndex = next) : Stack (w :: windows) (next + 1) where
  distinct := by
    rw [List.map_cons, List.nodup_cons]
    refine ⟨fun hmem => ?_, h.distinct⟩
    obtain ⟨v, hv, hvw⟩ := List.mem_map.mp hmem
    have hlt := h.below v hv
    omega
  below := by
    intro v hv
    rcases List.mem_cons.mp hv with rfl | hv
    · omega
    · have hlt := h.below v hv
      omega

/-- Only the numbers matter. -/
lemma congr (h : Stack windows next) (hz : windows'.map (·.zIndex) = windows.map (·.zIndex)) :
    Stack windows' next := by
  refine ⟨by rw [hz]; exact h.distinct, fun w hw => ?_⟩
  have hmem : w.zIndex ∈ windows.map (·.zIndex) := by
    rw [← hz]
    exact List.mem_map_of_mem hw
  obtain ⟨v, hv, hvw⟩ := List.mem_map.mp hmem
  rw [← hvw]
  exact h.below v hv

end Stack

/-- The first window that satisfies a condition is at its index. -/
lemma getElem?_findIdx {windows : List Window} {p : Window → Bool} {win : Window}
    (h : windows.find? p = some win) : windows[windows.findIdx p]? = some win := by
  obtain ⟨hp, before, after, rfl, hbefore⟩ := List.find?_eq_some_iff_append.mp h
  have hindex : (before ++ win :: after).findIdx p = before.length := by
    rw [List.findIdx_append, List.findIdx_eq_length_of_false fun v hv => by simpa using hbefore v hv,
      if_neg (lt_irrefl _), List.findIdx_cons, hp, cond_true, Nat.zero_add]
  rw [hindex, List.getElem?_append_right (le_refl _), Nat.sub_self]
  rfl

/-- One window is changed, and the others are not. -/
lemma modify_perm {windows : List Window} {i : ℕ} {win : Window} (f : Window → Window)
    (h : windows[i]? = some win) :
    ∃ others : List Window, others.Sublist windows ∧ (windows.modify i f).Perm (f win :: others) := by
  obtain ⟨hi, rfl⟩ := List.getElem?_eq_some_iff.mp h
  refine ⟨windows.take i ++ windows.drop (i + 1), ?_, ?_⟩
  · have hsplit := List.take_append_drop i windows
    conv_rhs => rw [← hsplit]
    exact (List.Sublist.refl _).append (List.drop_sublist_drop_left windows (Nat.le_succ i))
  · rw [List.modify_eq_take_cons_drop hi]
    exact List.perm_middle

/-- Where a window of the changed list comes from. -/
lemma of_mem_modify {windows : List Window} {f : Window → Window} {i : ℕ} {v : Window}
    (hv : v ∈ windows.modify i f) : ∃ u ∈ windows, v = u ∨ v = f u := by
  obtain ⟨j, hj⟩ := List.mem_iff_getElem?.mp hv
  rw [List.getElem?_modify] at hj
  obtain ⟨u, hu, rfl⟩ := Option.map_eq_some_iff.mp hj
  refine ⟨u, List.mem_of_getElem? hu, ?_⟩
  split
  · exact .inr rfl
  · exact .inl rfl

/-- A window at a place gets the number of the counter. -/
lemma Stack.modify {windows elsewhere : List Window} {next i : ℕ} {w : Window} {f : Window → Window}
    (h : Stack (windows ++ elsewhere) next) (hw : windows[i]? = some w) (hf : (f w).zIndex = next) :
    Stack (windows.modify i f ++ elsewhere) (next + 1) := by
  obtain ⟨others, hsub, hperm⟩ := modify_perm f hw
  have hrest := h.sublist (hsub.append (List.Sublist.refl elsewhere))
  exact (hrest.push hf).perm (hperm.append_right elsewhere).symm

/-- Changing one window does not change what the change preserves. -/
lemma map_modify_of_eq {β : Type} {g : Window → β} {f : Window → Window} (hf : ∀ w, g (f w) = g w)
    (windows : List Window) (i : ℕ) : (windows.modify i f).map g = windows.map g := by
  refine List.ext_getElem? fun j => ?_
  rw [List.getElem?_map, List.getElem?_map, List.getElem?_modify]
  cases windows[j]? with
  | none => split <;> rfl
  | some w =>
    split
    · exact congrArg some (hf w)
    · rfl

namespace WindowManagerState

variable {s : WindowManagerState} {d e : String} {windows : List Window} {i j : ℕ} {w v : Window}

/-! ## What is read after a change -/

/-- The windows of a desktop after they are set. -/
@[simp] lemma desktopWindows_setWindows :
    (s.setWindows d windows).desktopWindows e = if e = d then windows else s.desktopWindows e := by
  unfold desktopWindows setWindows
  rw [Record.get?_set]
  split <;> rfl

/-- The windows of the other desktops. -/
def elsewhere (s : WindowManagerState) (d : String) : List Window := (s.windows.others d).flatten

/-- They do not change with the windows of the desktop. -/
lemma elsewhere_setWindows : (s.setWindows d windows).elsewhere d = s.elsewhere d :=
  congrArg List.flatten (Record.others_set s.windows d windows)

/-- **All windows** are those of a desktop and those of the other desktops. -/
lemma allWindows_perm (s : WindowManagerState) (d : String) :
    s.allWindows.Perm (s.desktopWindows d ++ s.elsewhere d) := by
  unfold allWindows desktopWindows elsewhere
  cases h : s.windows.get? d with
  | none =>
    rw [s.windows.values_of_none d h]
    exact .refl _
  | some windows => exact (s.windows.values_perm d h).flatten

/-- All windows after those of a desktop are set. -/
lemma allWindows_setWindows (s : WindowManagerState) (d : String) (windows : List Window) :
    (s.setWindows d windows).allWindows.Perm (windows ++ s.elsewhere d) := by
  have h := allWindows_perm (s.setWindows d windows) d
  rwa [desktopWindows_setWindows, if_pos rfl, elsewhere_setWindows] at h

/-- A window of a desktop is a window. -/
lemma mem_allWindows (h : w ∈ s.desktopWindows d) : w ∈ s.allWindows :=
  (allWindows_perm s d).mem_iff.mpr (List.mem_append_left _ h)

/-! ## Places -/

/-- The windows are where the places say. -/
lemma mem_placedWindows :
    ((d, i), w) ∈ s.placedWindows ↔ (s.desktopWindows d)[i]? = some w := by
  unfold placedWindows desktopWindows
  rw [List.mem_flatMap]
  constructor
  · rintro ⟨⟨k, windows⟩, hentry, hmem⟩
    obtain ⟨⟨v, n⟩, hplace, heq⟩ := List.mem_map.mp hmem
    obtain ⟨hkey, rfl⟩ := Prod.mk.inj heq
    obtain ⟨rfl, rfl⟩ := Prod.mk.inj hkey
    rw [(s.windows.mem_entries k).mp hentry]
    exact List.mk_mem_zipIdx_iff_getElem?.mp hplace
  · intro h
    cases hget : s.windows.get? d with
    | none =>
      rw [hget] at h
      cases h
    | some windows =>
      rw [hget] at h
      exact ⟨(d, windows), (s.windows.mem_entries d).mpr hget, List.mem_map.mpr
        ⟨(w, i), List.mk_mem_zipIdx_iff_getElem?.mpr h, rfl⟩⟩

/-- No place occurs twice. -/
lemma nodup_places (s : WindowManagerState) : (s.placedWindows.map Prod.fst).Nodup := by
  unfold placedWindows
  rw [List.map_flatMap, List.nodup_flatMap]
  constructor
  · rintro ⟨k, windows⟩ -
    rw [List.map_map]
    have hindices : (windows.zipIdx.map fun w => (k, w.2)) =
        (List.range' 0 windows.length).map fun n => (k, n) := by
      rw [← List.zipIdx_map_snd, List.map_map]
      rfl
    show (windows.zipIdx.map fun w => (k, w.2)).Nodup
    rw [hindices]
    exact (List.nodup_range' 1).map fun a b h => (Prod.mk.inj h).2
  · refine (List.pairwise_map.mp s.windows.nodup).imp ?_
    rintro ⟨k, windows⟩ ⟨k', windows'⟩ hne
    refine List.disjoint_left.mpr ?_
    intro place hp hp'
    obtain ⟨_, hk, rfl⟩ := List.mem_map.mp hp
    obtain ⟨_, hk', heq⟩ := List.mem_map.mp hp'
    obtain ⟨_, _, rfl⟩ := List.mem_map.mp hk
    obtain ⟨_, _, rfl⟩ := List.mem_map.mp hk'
    exact hne (congrArg Prod.fst heq).symm

/-- The placed windows are all windows. -/
lemma placedWindows_map_snd (s : WindowManagerState) : s.placedWindows.map Prod.snd = s.allWindows := by
  unfold placedWindows allWindows Record.values
  rw [List.map_flatMap, List.flatMap_def]
  refine congrArg List.flatten (List.map_congr_left fun e _ => ?_)
  rw [List.map_map]
  exact List.zipIdx_map_fst 0 e.2

/-! ## Numbering anew -/

/-- The windows of a desktop after all windows are numbered anew. -/
lemma desktopWindows_compact : s.compactZIndexes.desktopWindows d =
    (s.desktopWindows d).mapIdx fun i w =>
      { w with zIndex := zIndexBase + sortRank (·.zIndex) s.placedWindows (d, i) } := by
  unfold desktopWindows compactZIndexes
  rw [Record.get?_mapValues]
  cases s.windows.get? d <;> rfl

/-- The placed windows after they are numbered anew. -/
lemma placedWindows_compact : s.compactZIndexes.placedWindows = s.placedWindows.map fun e =>
    (e.1, { e.2 with zIndex := zIndexBase + sortRank (·.zIndex) s.placedWindows e.1 }) := by
  conv_lhs => unfold placedWindows compactZIndexes Record.mapValues
  conv_rhs => unfold placedWindows
  rw [List.flatMap_map, List.map_flatMap]
  refine List.flatMap_congr fun e _ => List.ext_getElem? fun i => ?_
  simp only [List.getElem?_map, List.getElem?_zipIdx, List.getElem?_mapIdx, Option.map_map]
  cases e.2[i]? with
  | none => rfl
  | some w =>
    simp only [Option.map_some, Function.comp_apply, Nat.zero_add]
    rfl

/-- **Numbering anew** gives distinct numbers below the counter. -/
lemma stack_compact (s : WindowManagerState) :
    Stack s.compactZIndexes.allWindows s.compactZIndexes.nextZIndex := by
  have hnames := nodup_places s
  rw [← placedWindows_map_snd, placedWindows_compact, List.map_map]
  constructor
  · rw [List.map_map]
    refine List.Nodup.map_on ?_ (List.Nodup.of_map _ hnames)
    intro a ha b hb hab
    have hrank : sortRank (·.zIndex) s.placedWindows a.1 = sortRank (·.zIndex) s.placedWindows b.1 :=
      Nat.add_left_cancel hab
    exact List.inj_on_of_nodup_map hnames ha hb (sortRank_inj (List.mem_map_of_mem ha) hrank)
  · intro w hw
    obtain ⟨e, he, rfl⟩ := List.mem_map.mp hw
    have hlt : sortRank (·.zIndex) s.placedWindows e.1 < s.placedWindows.length :=
      sortRank_lt (List.mem_map_of_mem he)
    show zIndexBase + sortRank (·.zIndex) s.placedWindows e.1 < zIndexBase + s.placedWindows.length + 1
    omega

/-- The number of windows. -/
lemma length_placedWindows (s : WindowManagerState) :
    s.placedWindows.length = s.allWindows.length := by
  rw [← placedWindows_map_snd, List.length_map]

/-- **Numbering anew keeps the order of all windows.** -/
lemma compactZIndexes_order (hw : (s.desktopWindows d)[i]? = some w)
    (hv : (s.desktopWindows e)[j]? = some v) (h : w.zIndex < v.zIndex) :
    ∃ w' v', (s.compactZIndexes.desktopWindows d)[i]? = some w' ∧
      (s.compactZIndexes.desktopWindows e)[j]? = some v' ∧ w'.zIndex < v'.zIndex := by
  rw [desktopWindows_compact, desktopWindows_compact, List.getElem?_mapIdx, List.getElem?_mapIdx,
    hw, hv]
  refine ⟨_, _, rfl, rfl, Nat.add_lt_add_left ?_ _⟩
  exact sortRank_lt_sortRank (nodup_places s) (mem_placedWindows.mpr hw) (mem_placedWindows.mpr hv) h

/-! ## The invariant -/

/-- Windows have distinct numbers below the counter, and a desktop has one window an app. -/
structure Ordered (s : WindowManagerState) : Prop where
  /-- Of the numbers. -/
  stack : Stack s.allWindows s.nextZIndex
  /-- Of the apps. -/
  apps : ∀ d, ((s.desktopWindows d).map (·.appId)).Nodup

/-- The invariant of the store: also, the counter is bounded. -/
structure Stacked (s : WindowManagerState) : Prop extends Ordered s where
  /-- The counter is below the threshold, or just above the windows. -/
  bounded : s.nextZIndex ≤ max zIndexCompactThreshold (zIndexBase + 1 + s.allWindows.length)

/-- The windows of a desktop and the counter change. -/
lemma Ordered.setWindows (h : s.Ordered) {next : ℕ} (hstack : Stack (windows ++ s.elsewhere d) next)
    (happs : (windows.map (·.appId)).Nodup) :
    Ordered { s.setWindows d windows with nextZIndex := next } where
  stack := hstack.perm (allWindows_setWindows s d windows).symm
  apps := by
    intro e
    show (((s.setWindows d windows).desktopWindows e).map (·.appId)).Nodup
    rw [desktopWindows_setWindows]
    split
    · exact happs
    · exact h.apps e

/-- The windows of a desktop and those elsewhere. -/
lemma Ordered.stack_at (h : s.Ordered) (d : String) :
    Stack (s.desktopWindows d ++ s.elsewhere d) s.nextZIndex :=
  h.stack.perm (allWindows_perm s d)

/-- A window is changed, but not its app and its number. -/
lemma Ordered.editWindow (h : s.Ordered) (p : Window → Bool) {f : Window → Window}
    (hf : ∀ w, (f w).zIndex = w.zIndex ∧ (f w).appId = w.appId) : (s.editWindow d p f).Ordered := by
  refine h.setWindows ((h.stack_at d).congr ?_) ?_
  · rw [List.map_append, List.map_append, map_modify_of_eq fun w => (hf w).1]
  · rw [map_modify_of_eq fun w => (hf w).2]
    exact h.apps d

/-- A window is raised. -/
lemma Ordered.raiseWindow (h : s.Ordered) {p : Window → Bool} {f : Window → Window}
    (hf : ∀ w, (f w).appId = w.appId) (hw : (s.desktopWindows d).find? p = some w) :
    (s.raiseWindow d p f).Ordered := by
  refine h.setWindows (Stack.modify (h.stack_at d) (getElem?_findIdx hw) rfl) ?_
  have happs := map_modify_of_eq (g := (·.appId)) (f := fun w => { f w with zIndex := s.nextZIndex }) hf
    (s.desktopWindows d) ((s.desktopWindows d).findIdx p)
  exact (congrArg List.Nodup happs).mpr (h.apps d)

/-- A window of another app is opened. -/
lemma Ordered.push (h : s.Ordered) (hz : w.zIndex = s.nextZIndex)
    (happ : ∀ v ∈ s.desktopWindows d, v.appId ≠ w.appId) :
    Ordered { s.setWindows d (s.desktopWindows d ++ [w]) with nextZIndex := s.nextZIndex + 1 } := by
  refine h.setWindows (((h.stack_at d).push hz).perm ?_) ?_
  · rw [List.append_assoc]
    exact List.perm_middle.symm
  · exact Keyed.nodup_concat _ (h.apps d) happ

/-- The invariant depends on the windows and the counter. -/
lemma Ordered.congr {t : WindowManagerState} (h : s.Ordered) (hw : t.windows = s.windows)
    (hn : t.nextZIndex = s.nextZIndex) : t.Ordered := by
  obtain ⟨windows, active, next, rects, desktop, mode⟩ := s
  obtain ⟨windows', active', next', rects', desktop', mode'⟩ := t
  obtain rfl := hw
  obtain rfl := hn
  exact { stack := h.stack, apps := h.apps }

/-- Numbering anew does not change what does not depend on the numbers. -/
lemma map_compact_of_eq {β : Type} {g : Window → β} (hg : ∀ w z, g { w with zIndex := z } = g w) :
    (s.compactZIndexes.desktopWindows d).map g = (s.desktopWindows d).map g := by
  rw [desktopWindows_compact]
  refine List.ext_getElem? fun i => ?_
  rw [List.getElem?_map, List.getElem?_map, List.getElem?_mapIdx, Option.map_map]
  exact congrArg (fun f => Option.map f _) (funext fun w => hg w _)

/-- The same where it is due. -/
lemma map_maybeCompact_of_eq {β : Type} {g : Window → β}
    (hg : ∀ w z, g { w with zIndex := z } = g w) :
    (s.maybeCompactZIndexes.desktopWindows d).map g = (s.desktopWindows d).map g := by
  unfold maybeCompactZIndexes
  split
  · exact map_compact_of_eq hg
  · rfl

/-- **Numbering anew where it is due** establishes the bound. -/
lemma Ordered.maybeCompact (h : s.Ordered) : s.maybeCompactZIndexes.Stacked := by
  unfold maybeCompactZIndexes
  split
  · refine { stack := stack_compact s, apps := fun d => ?_, bounded := ?_ }
    · rw [map_compact_of_eq fun _ _ => rfl]
      exact h.apps d
    · have hlength : s.compactZIndexes.allWindows.length = s.placedWindows.length := by
        rw [← length_placedWindows, placedWindows_compact, List.length_map]
      rw [hlength]
      show zIndexBase + s.placedWindows.length + 1 ≤ _
      omega
  · rename_i hle
    exact { stack := h.stack, apps := h.apps, bounded := le_max_of_le_left (not_lt.mp hle) }

/-- The invariant depends on the windows and the counter. -/
lemma Stacked.congr {t : WindowManagerState} (h : s.Stacked) (hw : t.windows = s.windows)
    (hn : t.nextZIndex = s.nextZIndex) : t.Stacked := by
  refine { toOrdered := h.toOrdered.congr hw hn, bounded := ?_ }
  have hall : t.allWindows = s.allWindows := congrArg (fun r => (Record.values r).flatten) hw
  rw [hall, hn]
  exact h.bounded

/-- The invariant holds initially. -/
lemma stacked_initialState : initialState.Stacked where
  stack := ⟨List.nodup_nil, nofun⟩
  apps := fun _ => List.nodup_nil
  bounded := by decide

/-! ## The operations -/

/-- The topmost window is at its place. -/
lemma topmost_eq_some (h : topmost windows = some (w, i)) :
    windows[i]? = some w ∧ ∀ v ∈ windows, v.zIndex ≤ w.zIndex := by
  unfold topmost at h
  set sorted := windows.zipIdx.insertionSort fun a b => b.1.zIndex ≤ a.1.zIndex with hsorted
  have hperm : sorted.Perm windows.zipIdx := List.perm_insertionSort _ _
  have : Std.Total fun a b : Window × ℕ => b.1.zIndex ≤ a.1.zIndex :=
    ⟨fun a b => le_total b.1.zIndex a.1.zIndex⟩
  have : IsTrans (Window × ℕ) fun a b => b.1.zIndex ≤ a.1.zIndex := ⟨fun _ _ _ hab hbc => hbc.trans hab⟩
  have hdesc := List.pairwise_insertionSort (fun a b : Window × ℕ => b.1.zIndex ≤ a.1.zIndex)
    windows.zipIdx
  rw [← hsorted] at hdesc
  obtain ⟨lower, hlower⟩ := List.head?_eq_some_iff.mp h
  rw [hlower] at hdesc hperm
  refine ⟨List.mk_mem_zipIdx_iff_getElem?.mp (hperm.mem_iff.mp List.mem_cons_self), fun v hv => ?_⟩
  obtain ⟨n, hn, rfl⟩ := List.getElem_of_mem hv
  have hmem : (windows[n], n) ∈ (w, i) :: lower := hperm.mem_iff.mpr
    (List.mk_mem_zipIdx_iff_getElem?.mpr (List.getElem?_eq_getElem hn))
  rcases List.mem_cons.mp hmem with heq | hmem
  · rw [(Prod.mk.inj heq).1]
  · exact (List.pairwise_cons.mp hdesc).1 _ hmem

/-- A window is changed, but not its app and its number. -/
lemma Stacked.editWindow (h : s.Stacked) (p : Window → Bool) {f : Window → Window}
    (hf : ∀ w, (f w).zIndex = w.zIndex ∧ (f w).appId = w.appId) : (s.editWindow d p f).Stacked := by
  refine { toOrdered := h.toOrdered.editWindow p hf, bounded := ?_ }
  have hlength : (s.editWindow d p f).allWindows.length = s.allWindows.length := by
    unfold WindowManagerState.editWindow
    rw [(allWindows_setWindows s d _).length_eq, (allWindows_perm s d).length_eq,
      List.length_append, List.length_append, List.length_modify]
  rw [hlength]
  exact h.bounded

/-- Opening an app keeps the invariant. -/
lemma Stacked.openApp (h : s.Stacked) {viewport : Viewport} {freshId appId : String}
    {defaultRect : PartialWindow} : (s.openApp d viewport freshId appId defaultRect).Stacked := by
  unfold WindowManagerState.openApp
  split
  · rename_i existing hfind
    have hraised := h.raiseWindow (f := fun w => { w with state := .normal }) (fun _ => rfl) hfind
    exact hraised.maybeCompact.congr rfl rfl
  · rename_i hfind
    refine Ordered.maybeCompact ((h.push ?_ ?_).congr rfl rfl)
    · rfl
    · intro v hv heq
      exact List.find?_eq_none.mp hfind v hv (decide_eq_true heq)

/-- A window is closed. -/
lemma Ordered.closing (h : s.Ordered) {windowId : String} : (s.closing d windowId).Ordered := by
  have hsub : ((s.desktopWindows d).filter (·.id ≠ windowId)).Sublist (s.desktopWindows d) :=
    List.filter_sublist
  have hstack : Stack ((s.desktopWindows d).filter (·.id ≠ windowId) ++ s.elsewhere d)
      s.nextZIndex := (h.stack_at d).sublist (hsub.append (List.Sublist.refl _))
  have happs : (((s.desktopWindows d).filter (·.id ≠ windowId)).map (·.appId)).Nodup :=
    (h.apps d).sublist (hsub.map _)
  unfold WindowManagerState.closing
  dsimp only
  split
  · split
    · rename_i top place htop
      have hraised := hstack.modify (f := fun w => { w with zIndex := s.nextZIndex })
        (topmost_eq_some htop).1 rfl
      rw [← elsewhere_setWindows] at hraised
      have hsame := map_modify_of_eq (g := (·.appId)) (f := fun w => { w with zIndex := s.nextZIndex })
        (fun _ => rfl) ((s.desktopWindows d).filter (·.id ≠ windowId)) place
      exact ((h.setWindows hstack happs).setWindows hraised
        ((congrArg List.Nodup hsame).mpr happs)).congr rfl rfl
    · exact (h.setWindows hstack happs).congr rfl rfl
  · exact (h.setWindows hstack happs).congr rfl rfl

/-- Closing a window keeps the invariant. -/
lemma Stacked.closeWindow (h : s.Stacked) {windowId : String} :
    (s.closeWindow d windowId).Stacked := h.closing.maybeCompact

/-- Focusing a window keeps the invariant. -/
lemma Stacked.focusWindow (h : s.Stacked) {windowId : String} : (s.focusWindow d windowId).Stacked := by
  unfold WindowManagerState.focusWindow
  split
  · rename_i win hfind
    have hraised := h.raiseWindow (f := id) (fun _ => rfl) hfind
    exact hraised.maybeCompact.congr rfl rfl
  · exact h.congr rfl rfl

end WindowManagerState

open WindowManagerState

/-- **Every operation keeps the invariant.** -/
theorem WindowStep.stacked {s s' : WindowManagerState} {op : WindowOperation} (h : s.Stacked)
    (hstep : WindowStep s op s') : s'.Stacked := by
  obtain rfl := hstep
  cases op with
  | openApp viewport freshId d appId defaultRect => exact h.openApp
  | closeWindow d windowId => exact h.closeWindow
  | focusWindow d windowId => exact h.focusWindow
  | moveWindow d windowId rect =>
    unfold WindowManagerState.perform WindowManagerState.moveWindow
    dsimp only
    split
    · exact h
    · split
      · exact h
      · exact h.editWindow _ fun _ => ⟨rfl, rfl⟩
  | minimizeWindow d windowId =>
    unfold WindowManagerState.perform WindowManagerState.minimizeWindow
    dsimp only
    split
    · exact h
    · exact h.editWindow _ fun _ => ⟨rfl, rfl⟩
  | maximizeWindow viewport d windowId =>
    unfold WindowManagerState.perform WindowManagerState.maximizeWindow
    dsimp only
    split
    · exact h
    · have hedit := h.editWindow (d := d) (·.id = windowId)
        (f := fun w => { w with
          toWindowGeometry := ⟨0, menubarHeight, viewport.innerWidth,
            viewport.innerHeight - menubarHeight⟩
          state := .maximized }) fun _ => ⟨rfl, rfl⟩
      exact hedit.congr rfl rfl
  | restoreWindow d windowId =>
    unfold WindowManagerState.perform WindowManagerState.restoreWindow
    dsimp only
    split
    · exact h
    · split
      · rename_i prevRect _
        have hedit := h.editWindow (d := d) (·.id = windowId)
          (f := fun w => { w with toWindowGeometry := prevRect, state := .normal })
          fun _ => ⟨rfl, rfl⟩
        exact hedit.congr rfl rfl
      · exact h.editWindow _ fun _ => ⟨rfl, rfl⟩
  | setActiveDesktop id => exact h.congr rfl rfl
  | setViewMode mode => exact h.congr rfl rfl
  | reset => exact stacked_initialState

/-- The invariant holds after every run. -/
theorem stacked_of_run {tr : List (WindowManagerState × WindowOperation)} {s : WindowManagerState}
    (h : Run (· = initialState) WindowStep tr s) : s.Stacked := by
  refine h.invariant ?_ fun s op s' hs hstep => hstep.stacked hs
  rintro s rfl
  exact stacked_initialState

/-! ## The window on top -/

namespace WindowManagerState

variable {s : WindowManagerState} {d e : String} {i : ℕ} {w : Window}

/-- The window at a place of a desktop is above all other windows. -/
def OnTop (s : WindowManagerState) (d : String) (i : ℕ) (w : Window) : Prop :=
  (s.desktopWindows d)[i]? = some w ∧
    ∀ e j v, (s.desktopWindows e)[j]? = some v → (e, j) ≠ (d, i) → v.zIndex < w.zIndex

/-- The window at a place after all windows are numbered anew. -/
lemma getElem?_compact : (s.compactZIndexes.desktopWindows d)[i]? =
    (s.desktopWindows d)[i]?.map fun w =>
      { w with zIndex := zIndexBase + sortRank (·.zIndex) s.placedWindows (d, i) } := by
  rw [desktopWindows_compact, List.getElem?_mapIdx]

/-- Numbering anew keeps the window on top. -/
lemma OnTop.maybeCompact (h : s.OnTop d i w) :
    ∃ z, s.maybeCompactZIndexes.OnTop d i { w with zIndex := z } := by
  obtain ⟨hw, htop⟩ := h
  unfold maybeCompactZIndexes
  split
  · refine ⟨zIndexBase + sortRank (·.zIndex) s.placedWindows (d, i), ?_, ?_⟩
    · rw [getElem?_compact, hw]
      rfl
    · intro e j v hv hne
      rw [getElem?_compact] at hv
      obtain ⟨u, hu, rfl⟩ := Option.map_eq_some_iff.mp hv
      exact Nat.add_lt_add_left (sortRank_lt_sortRank (nodup_places s) (mem_placedWindows.mpr hu)
        (mem_placedWindows.mpr hw) (htop e j u hu hne)) _
  · exact ⟨w.zIndex, hw, htop⟩

/-- What is on top depends on the windows. -/
lemma OnTop.congr {t : WindowManagerState} (h : s.OnTop d i w) (hw : t.windows = s.windows) :
    t.OnTop d i w := by
  have hsame : t.desktopWindows = s.desktopWindows := by
    unfold desktopWindows
    rw [hw]
  unfold OnTop
  rw [hsame]
  exact h

/-- A window that is raised is on top. -/
lemma Ordered.onTop_raiseWindow (h : s.Ordered) {p : Window → Bool} (f : Window → Window)
    (hw : (s.desktopWindows d).find? p = some w) :
    (s.raiseWindow d p f).OnTop d ((s.desktopWindows d).findIdx p)
      { f w with zIndex := s.nextZIndex } := by
  have hread : ∀ e, (s.raiseWindow d p f).desktopWindows e =
      if e = d then (s.desktopWindows d).modify ((s.desktopWindows d).findIdx p)
        (fun w => { f w with zIndex := s.nextZIndex }) else s.desktopWindows e :=
    fun e => desktopWindows_setWindows
  constructor
  · rw [hread, if_pos rfl, List.getElem?_modify_eq, getElem?_findIdx hw]
    rfl
  · intro e j v hv hne
    rw [hread] at hv
    have hold : v ∈ s.desktopWindows e := by
      by_cases he : e = d
      · have hj : (s.desktopWindows d).findIdx p ≠ j := by
          rintro rfl
          exact hne (by rw [he])
        rw [if_pos he, List.getElem?_modify_ne _ _ hj, ← he] at hv
        exact List.mem_of_getElem? hv
      · rw [if_neg he] at hv
        exact List.mem_of_getElem? hv
    exact h.stack.below v (mem_allWindows hold)

/-- A window that is added is on top. -/
lemma Ordered.onTop_push (h : s.Ordered) (hz : w.zIndex = s.nextZIndex) :
    (s.setWindows d (s.desktopWindows d ++ [w])).OnTop d (s.desktopWindows d).length w := by
  constructor
  · rw [desktopWindows_setWindows, if_pos rfl]
    exact List.getElem?_concat_length
  · intro e j v hv hne
    rw [desktopWindows_setWindows] at hv
    have hold : v ∈ s.desktopWindows e := by
      by_cases he : e = d
      · have hj : j ≠ (s.desktopWindows d).length := by
          rintro rfl
          exact hne (by rw [he])
        rw [if_pos he] at hv
        have hlt := (List.getElem?_eq_some_iff.mp hv).1
        rw [List.length_append, List.length_singleton] at hlt
        rw [List.getElem?_append_left (by omega), ← he] at hv
        exact List.mem_of_getElem? hv
      · rw [if_neg he] at hv
        exact List.mem_of_getElem? hv
    rw [hz]
    exact h.stack.below v (mem_allWindows hold)

/-- **An app that was just opened is on top.** -/
lemma Stacked.onTop_openApp (h : s.Stacked) {viewport : Viewport} {freshId appId : String}
    {defaultRect : PartialWindow} :
    ∃ i w, (s.openApp d viewport freshId appId defaultRect).OnTop d i w ∧ w.appId = appId := by
  unfold WindowManagerState.openApp
  split
  · rename_i existing hfind
    have hraised := h.onTop_raiseWindow (fun w => { w with state := .normal }) hfind
    obtain ⟨z, hz⟩ := hraised.maybeCompact
    have happ : existing.appId = appId := by simpa using List.find?_some hfind
    exact ⟨_, _, hz.congr rfl, happ⟩
  · have hopened := h.onTop_push (d := d)
      (w := newWindow viewport freshId appId defaultRect s.nextZIndex) rfl
    have hactive := hopened.congr rfl
      (t := { (s.setWindows d _).setActive d (some freshId) with nextZIndex := s.nextZIndex + 1 })
    obtain ⟨z, hz⟩ := hactive.maybeCompact
    exact ⟨_, _, hz, rfl⟩

/-- **A window that was just focused is on top.** -/
lemma Stacked.onTop_focusWindow (h : s.Stacked) {windowId : String}
    (hw : (s.desktopWindows d).find? (·.id = windowId) = some w) :
    ∃ z, (s.focusWindow d windowId).OnTop d ((s.desktopWindows d).findIdx (·.id = windowId))
      { w with zIndex := z } := by
  unfold WindowManagerState.focusWindow
  rw [hw]
  obtain ⟨z, hz⟩ := (h.onTop_raiseWindow id hw).maybeCompact
  exact ⟨z, hz.congr rfl⟩

/-- A window that is below another one before is below it after, for the windows at all places. -/
def KeepsOrder (s t : WindowManagerState) : Prop :=
  ∀ (d : String) (i : ℕ) (w : Window) (e : String) (j : ℕ) (v : Window),
    (s.desktopWindows d)[i]? = some w → (s.desktopWindows e)[j]? = some v →
      w.zIndex < v.zIndex → ∃ w' v', (t.desktopWindows d)[i]? = some w' ∧
        (t.desktopWindows e)[j]? = some v' ∧ w'.zIndex < v'.zIndex

/-- What is promised of the order of the windows. -/
structure ZOrder (s : WindowManagerState) : Prop where
  /-- The numbers of all windows are distinct. -/
  distinct : (s.allWindows.map (·.zIndex)).Nodup
  /-- They are below the counter. -/
  below : ∀ w ∈ s.allWindows, w.zIndex < s.nextZIndex
  /-- The counter is bounded. -/
  bounded : s.nextZIndex ≤ max 10000 (101 + s.allWindows.length)
  /-- A desktop has at most one window an app. -/
  apps : ∀ d, ((s.desktopWindows d).map (·.appId)).Nodup
  /-- Opening an app brings its window to the top. -/
  opened : ∀ viewport freshId d appId defaultRect, ∃ i w,
    (s.perform (.openApp viewport freshId d appId defaultRect)).OnTop d i w ∧ w.appId = appId
  /-- Focusing a window brings it to the top. -/
  focused : ∀ d windowId w, (s.desktopWindows d).find? (·.id = windowId) = some w →
    ∃ z, (s.perform (.focusWindow d windowId)).OnTop d
      ((s.desktopWindows d).findIdx (·.id = windowId)) { w with zIndex := z }

end WindowManagerState

/-- **The order of the windows**, after any sequence of operations, and when the windows of any
state are numbered anew.

**Proof sketch.** Every operation keeps `Stacked`: a window that is raised or added gets the number
of the counter, which is above all, and the counter grows; the other operations change no number.
When the counter passes the threshold, a window gets its rank among all windows by number, and
ranks are distinct, smaller than the number of windows, and ordered as the numbers were. -/
theorem z_order {tr : List (WindowManagerState × WindowOperation)} {s : WindowManagerState}
    (h : Run (· = initialState) WindowStep tr s) :
    s.ZOrder ∧ ∀ t : WindowManagerState, t.KeepsOrder t.compactZIndexes := by
  have hs := stacked_of_run h
  refine ⟨?_, fun t d i w e j v => compactZIndexes_order⟩
  exact {
    distinct := hs.stack.distinct
    below := hs.stack.below
    bounded := hs.bounded
    apps := hs.apps
    opened := fun viewport freshId d appId defaultRect => hs.onTop_openApp
    focused := fun d windowId w hw => hs.onTop_focusWindow hw }

namespace Scenario

/-- A browser window. -/
def viewport : Viewport := ⟨1200, 801⟩

/-- An app is opened on each of two desktops, and the first window is focused again. -/
def windowOperations : List WindowOperation :=
  [.openApp viewport "w1" "acme" "files" .none, .openApp viewport "w2" "globex" "notes" .none,
    .focusWindow "acme" "w1"]

/-- The states of the store while operations are performed, newest first. -/
def performed : List WindowOperation → WindowManagerState →
    List (WindowManagerState × WindowOperation) → List (WindowManagerState × WindowOperation)
  | [], _, tr => tr
  | op :: ops, s, tr => performed ops (s.perform op) ((s, op) :: tr)

/-- Performed operations are a run. -/
lemma run_performed {init : WindowManagerState → Prop}
    {tr : List (WindowManagerState × WindowOperation)} {s : WindowManagerState}
    (ops : List WindowOperation) (h : Run init WindowStep tr s) :
    Run init WindowStep (performed ops s tr) (ops.foldl (·.perform ·) s) := by
  induction ops generalizing tr s with
  | nil => exact h
  | cons op ops ih => exact ih (h.snoc rfl)

end Scenario

open Scenario in
/-- The windows of two desktops after the first one was focused again. -/
theorem z_order_focused :
    (windowOperations.foldl (·.perform ·) initialState).ZOrder ∧
      ∀ t : WindowManagerState, t.KeepsOrder t.compactZIndexes :=
  z_order (run_performed windowOperations (.start rfl))

end Klynt
