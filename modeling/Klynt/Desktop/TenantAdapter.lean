import Klynt.Lib.Run
import Klynt.Desktop.Layout

set_option relaxedAutoImplicit false
set_option autoImplicit false

/-!
# One editor of a shared layout

An editor's desktop loads the shared layout and saves it again and again.  The server accepts a
save only with the etag of the layout it holds, and draws a new etag for each layout it stores.
The client keeps the etag of the layout it loaded in the adapter that loaded it; every rendering
of the page makes a new adapter.

## Main definitions

* `TenantApiAdapter` — the adapter.
* `Editor`, `EditorStep` — a client with the server, where nobody else writes.
* `FirstSave` — the saves of which the etag is the current one.

## Main results

* `no_conflict` — such a save is never refused.
* `second_save_refused` — the second save of a client is refused.

## Implementation notes

The user may edit the layout, and the layout is there.  Saves are not awaited, so that several can
be on their way, and the server serves them in any order, each at once.
-/

namespace Klynt

/-- An adapter to the layout of a tenant: `etag` of the closure. -/
structure TenantApiAdapter where
  /-- The etag of the layout that was loaded. -/
  etag : Option String

namespace TenantApiAdapter

/-- `createTenantApiAdapter`. -/
def create : TenantApiAdapter := { etag := none }

/-- `load`, when a layout arrives. -/
def loaded (_ : TenantApiAdapter) (shared : TenantDesktopLayout) : TenantApiAdapter × LoadResult :=
  ({ etag := some shared.etag }, .ok (some (.ofStored shared)))

/-- `etag ?? ""`, which `save` sends. -/
def sentEtag (adapter : TenantApiAdapter) : String := adapter.etag.getD ""

end TenantApiAdapter

/-- A client that edits the shared layout of a tenant, and the server. -/
structure Editor where
  /-- The adapters, in the order in which they were made. -/
  adapters : ℕ → TenantApiAdapter
  /-- The adapter of the last rendering. -/
  current : ℕ
  /-- The adapter that loads the layout, or has loaded it. -/
  loader : Option ℕ
  /-- Whether the layout is awaited. -/
  isLoading : Bool
  /-- The saves that the server has not served. -/
  sent : List LayoutPayload
  /-- The layouts of the server. -/
  layouts : Layouts

/-- The page is shown for the first time. -/
def EditorInit (s : Editor) : Prop :=
  (∀ n, s.adapters n = .create) ∧ s.loader = none ∧ s.isLoading = true ∧ s.sent = []

/-- What happens to a client and the server. -/
inductive EditorEvent where
  /-- The page is rendered. -/
  | render
  /-- The layout is requested. -/
  | load
  /-- The layout arrives. -/
  | loaded (layout : TenantDesktopLayout)
  /-- A layout is sent. -/
  | save (payload : LayoutPayload)
  /-- The server serves a save. -/
  | served (payload : LayoutPayload) (r : Except TenantError TenantDesktopLayout)

/-- The steps of a client and the server; `id` and `etag` are drawn by the server. -/
inductive EditorStep (t : Uuid) (s : Editor) : EditorEvent → Editor → Prop where
  /-- `buildTenantDesktop` makes a new adapter. -/
  | render : EditorStep t s .render
      { s with
        current := s.current + 1
        adapters := Function.update s.adapters (s.current + 1) .create }
  /-- The effect that loads takes the adapter of the last rendering. -/
  | load (h : s.loader = none) : EditorStep t s .load { s with loader := some s.current }
  /-- The answer is kept by the adapter that asked. -/
  | loaded {a : ℕ} {layout : TenantDesktopLayout} (ha : s.loader = some a)
      (hl : s.isLoading = true)
      (hfound : (TenantDesktopLayoutService.getShared t).Exec Layouts.Env s.layouts
        (.ok (some layout)) s.layouts) :
      EditorStep t s (.loaded layout)
        { s with
          adapters := Function.update s.adapters a ((s.adapters a).loaded layout).1
          isLoading := false }
  /-- The effect that saves takes the adapter of the last rendering. -/
  | save {payload : LayoutPayload} (hl : s.isLoading = false)
      (he : payload.etag = (s.adapters s.current).sentEtag) :
      EditorStep t s (.save payload) { s with sent := payload :: s.sent }
  /-- `update_shared` of the routes. -/
  | served {payload : LayoutPayload} {before after : List LayoutPayload}
      {r : Except TenantError TenantDesktopLayout} {layouts : Layouts} (id etag : Uuid)
      (hp : s.sent = before ++ payload :: after)
      (h : (TenantDesktopLayoutService.updateShared t (buildLayout t .shared none payload id etag)
        payload.etag).Exec Layouts.Env s.layouts r layouts) :
      EditorStep t s (.served payload r) { s with sent := before ++ after, layouts }

/-- A history of a client and the server. -/
abbrev EditorHistory : Type := List (Editor × EditorEvent)

/-- A layout is sent. -/
def EditorEvent.IsSave : EditorEvent → Prop
  | save _ => True
  | _ => False

/-- A save is refused because of its etag. -/
def EditorEvent.Refused (event : EditorEvent) : Prop :=
  ∃ payload, event = .served payload (.error (.domain (.conflict "desktop layout etag mismatch")))

/-- **The saves of which the etag is the current one**: the adapter that sends the layout is the
one that has loaded it, and no layout was sent before. -/
def FirstSave (older : EditorHistory) (s : Editor) : EditorEvent → Prop
  | .save _ => s.loader = some s.current ∧ ∀ e ∈ older, ¬ e.2.IsSave
  | _ => True

/-! ## The service -/

/-- The layout that is found is the one that is held. -/
lemma getShared_exec {t : Uuid} {s s' : Layouts} {found : Option TenantDesktopLayout}
    (h : (TenantDesktopLayoutService.getShared t).Exec Layouts.Env s (.ok found) s') :
    found = s (t, .shared, none) := by
  obtain ⟨a, s₁, hE, hr, -⟩ := h
  obtain ⟨rfl, -⟩ := Prod.mk.inj hE
  exact Except.ok.inj hr

/-- **A save with the current etag is accepted.** -/
lemma updateShared_exec {t : Uuid} {s s' : Layouts} {current layout : TenantDesktopLayout}
    {r : Except TenantError TenantDesktopLayout} (hs : s (t, .shared, none) = some current)
    (h : (TenantDesktopLayoutService.updateShared t layout current.etag).Exec Layouts.Env s r s') :
    r = .ok layout := by
  obtain ⟨a, s₁, hE, h⟩ := h
  obtain ⟨rfl, hstate⟩ := Prod.mk.inj hE
  rw [hstate, hs] at h
  have hrest : (Prog.rejectIf ((some current).any fun l => l.etag ≠ current.etag)
      (.domain (.conflict "desktop layout etag mismatch")) >>= fun _ =>
        upsertLayout layout : LayoutAction TenantDesktopLayout).Exec Layouts.Env s r s' := h
  have hsame : ¬ ((some current).any fun l => l.etag ≠ current.etag) = true := by simp
  rcases Prog.exec_bind.mp hrest with ⟨_, s₁, -, hupsert⟩ | ⟨e, -, hreject⟩
  · obtain ⟨a, s₂, hE, hr, -⟩ := hupsert
    obtain ⟨rfl, -⟩ := Prod.mk.inj hE
    exact hr
  · obtain ⟨⟨-, hr⟩ | ⟨hother, -⟩, -⟩ := Prog.exec_rejectIf.mp hreject
    · cases hr
    · exact absurd hother hsame

/-! ## The invariant -/

/-- What holds of a client whose saves are of that kind, given its history. -/
structure Lone (t : Uuid) (tr : EditorHistory) (s : Editor) : Prop where
  /-- The adapter that loads was made. -/
  made : ∀ a, s.loader = some a → a ≤ s.current
  /-- Until something was sent, nothing is on its way. -/
  idle : (∀ e ∈ tr, ¬ e.2.IsSave) → s.sent = []
  /-- Until something was sent, the adapter that has loaded the layout has its etag. -/
  held : (∀ e ∈ tr, ¬ e.2.IsSave) → s.isLoading = false → ∃ a l, s.loader = some a ∧
    s.layouts (t, .shared, none) = some l ∧ (s.adapters a).etag = some l.etag
  /-- At most one save is on its way, with the etag of the layout. -/
  waiting : s.sent = [] ∨ ∃ p l, s.sent = [p] ∧ s.layouts (t, .shared, none) = some l ∧
    p.etag = l.etag

/-- The invariant holds initially. -/
lemma Lone.start {t : Uuid} {s : Editor} (h : EditorInit s) : Lone t [] s := by
  obtain ⟨-, hloader, hloading, hsent⟩ := h
  exact {
    made := fun a ha => nomatch hloader.symm.trans ha
    idle := fun _ => hsent
    held := fun _ hl => nomatch hloading.symm.trans hl
    waiting := .inl hsent }

/-- **Every step keeps the invariant**, and no save is refused. -/
lemma EditorStep.lone {t : Uuid} {tr : EditorHistory} {s s' : Editor} {event : EditorEvent}
    (h : Lone t tr s) (hc : FirstSave tr s event) (hstep : EditorStep t s event s') :
    Lone t ((s, event) :: tr) s' ∧ ¬ event.Refused := by
  cases hstep with
  | render =>
    refine ⟨{ h with made := ?_, idle := ?_, held := ?_ }, fun ⟨_, hevent⟩ => nomatch hevent⟩
    · exact fun a ha => (h.made a ha).trans (Nat.le_succ _)
    · exact fun hno => h.idle (List.forall_mem_cons.mp hno).2
    · intro hno hl
      obtain ⟨a, l, ha, hlayout, hetag⟩ := h.held (List.forall_mem_cons.mp hno).2 hl
      refine ⟨a, l, ha, hlayout, ?_⟩
      have hne : a ≠ s.current + 1 := fun heq => absurd (h.made a ha) (by omega)
      show (Function.update s.adapters (s.current + 1) .create a).etag = _
      rw [Function.update_of_ne hne]
      exact hetag
  | load hload =>
    refine ⟨{ h with made := ?_, idle := ?_, held := ?_ }, fun ⟨_, hevent⟩ => nomatch hevent⟩
    · rintro a ha
      obtain rfl := Option.some.inj ha
      exact le_refl _
    · exact fun hno => h.idle (List.forall_mem_cons.mp hno).2
    · intro hno hl
      obtain ⟨a, l, ha, -⟩ := h.held (List.forall_mem_cons.mp hno).2 hl
      cases hload.symm.trans ha
  | @loaded a layout ha hl hfound =>
    refine ⟨{ h with idle := ?_, held := ?_ }, fun ⟨_, hevent⟩ => nomatch hevent⟩
    · exact fun hno => h.idle (List.forall_mem_cons.mp hno).2
    · intro hno _
      refine ⟨a, layout, ha, (getShared_exec hfound).symm, ?_⟩
      show (Function.update s.adapters a _ a).etag = _
      rw [Function.update_self]
      rfl
  | @save payload hl he =>
    obtain ⟨hcurrent, hfirst⟩ := hc
    obtain ⟨a, l, ha, hlayout, hetag⟩ := h.held hfirst hl
    obtain rfl : s.current = a := Option.some.inj (hcurrent.symm.trans ha)
    have hno : ¬ ∀ e ∈ (s, EditorEvent.save payload) :: tr, ¬ e.2.IsSave :=
      fun hno => (List.forall_mem_cons.mp hno).1 trivial
    refine ⟨{ h with idle := fun h => absurd h hno, held := fun h => absurd h hno, waiting := ?_ },
      fun ⟨_, hevent⟩ => nomatch hevent⟩
    refine .inr ⟨payload, l, congrArg _ (h.idle hfirst), hlayout, ?_⟩
    rw [he]
    unfold TenantApiAdapter.sentEtag
    rw [hetag]
    rfl
  | @served payload before after r layouts id etag hp hx =>
    have hsome : ¬ ∀ e ∈ tr, ¬ e.2.IsSave := fun hno => by
      have hnil := h.idle hno
      rw [hp] at hnil
      cases (List.append_eq_nil_iff.mp hnil).2
    have hno : ¬ ∀ e ∈ (s, EditorEvent.served payload r) :: tr, ¬ e.2.IsSave :=
      fun hno => hsome (List.forall_mem_cons.mp hno).2
    obtain hnil | ⟨p, l, hone, hlayout, hetag⟩ := h.waiting
    · rw [hp] at hnil
      cases (List.append_eq_nil_iff.mp hnil).2
    · rw [hp] at hone
      obtain ⟨rfl, hafter⟩ | ⟨-, habsurd⟩ := List.append_eq_singleton_iff.mp hone
      · obtain ⟨rfl, rfl⟩ := List.cons.inj hafter
        rw [hetag] at hx
        refine ⟨{ made := h.made, idle := fun _ => rfl, held := fun h => absurd h hno
                  waiting := .inl rfl }, ?_⟩
        rintro ⟨_, hevent⟩
        obtain ⟨-, rfl⟩ := EditorEvent.served.inj hevent
        cases updateShared_exec hlayout hx
      · cases habsurd

/-- **A lone editor gets no conflict**, in every run whose saves are all sent by the adapter that
has loaded the layout, and where nothing was sent before.

**Proof sketch.** Until the first save, the adapter that has loaded the layout has its etag, since
the layout changes only when a save is served.  So the first save presents the current etag, and
it is accepted; there is no second one. -/
theorem no_conflict {t : Uuid} {tr : EditorHistory} {s : Editor}
    (h : Run EditorInit (EditorStep t) tr s) (hc : Run.Along FirstSave tr) :
    ∀ e ∈ tr, ¬ e.2.Refused := by
  have hinv : Lone t tr s ∧ ∀ e ∈ tr, ¬ e.2.Refused := by
    induction h with
    | start hi => exact ⟨Lone.start hi, nofun⟩
    | snoc _ hstep ih =>
      obtain ⟨hlone, hserved⟩ := ih hc.2
      obtain ⟨hlone', hserved'⟩ := hstep.lone hlone hc.1
      exact ⟨hlone', List.forall_mem_cons.mpr ⟨hserved', hserved⟩⟩
  exact hinv.2

namespace Scenario

/-- The layouts of a server that holds one. -/
def heldLayouts : Layouts := fun key => if key = (2, .shared, none) then some windowLayout else none

/-- The page is shown. -/
def shownEditor : Editor :=
  { adapters := fun _ => .create, current := 0, loader := none, isLoading := true, sent := [],
    layouts := heldLayouts }

/-- What a client sends that has loaded the layout. -/
def sentPayload : LayoutPayload :=
  { version := 1, backgroundPresetId := "fabric", icons := [], windows := [], etag := "e1" }

/-- The call of the server that serves it. -/
def servedCall : LayoutAction TenantDesktopLayout :=
  TenantDesktopLayoutService.updateShared 2 (buildLayout 2 .shared none sentPayload 3 4)
    sentPayload.etag

/-- The page has loaded the layout. -/
def loadedEditor : Editor :=
  { shownEditor with
    adapters := Function.update shownEditor.adapters 0 { etag := some windowLayout.etag }
    loader := some 0
    isLoading := false }

/-- The server has accepted a save. -/
def savedEditor : Editor :=
  { loadedEditor with layouts := (servedCall.eval Layouts.answer heldLayouts).2 }

/-- The history of it. -/
def savedHistory : EditorHistory :=
  [({ loadedEditor with sent := [sentPayload] },
      .served sentPayload (servedCall.eval Layouts.answer heldLayouts).1),
    (loadedEditor, .save sentPayload),
    ({ shownEditor with loader := some 0 }, .loaded windowLayout),
    (shownEditor, .load)]

/-- The page is shown, the layout is loaded, saved, and the save is accepted. -/
lemma run_savedHistory : Run EditorInit (EditorStep 2) savedHistory savedEditor := by
  have hload : EditorStep 2 shownEditor .load { shownEditor with loader := some 0 } := .load rfl
  have hloaded : EditorStep 2 { shownEditor with loader := some 0 } (.loaded windowLayout)
      loadedEditor := .loaded rfl rfl ⟨_, _, rfl, rfl, rfl⟩
  have hsave : EditorStep 2 loadedEditor (.save sentPayload)
      { loadedEditor with sent := [sentPayload] } := .save rfl rfl
  have hserved : EditorStep 2 { loadedEditor with sent := [sentPayload] }
      (.served sentPayload (servedCall.eval Layouts.answer heldLayouts).1) savedEditor :=
    .served 3 4 (show _ = [] ++ sentPayload :: [] from rfl) (Prog.exec_eval fun _ _ => rfl)
  exact (((Run.start ⟨fun _ => rfl, rfl, rfl, rfl⟩).snoc hload).snoc hloaded).snoc hsave |>.snoc hserved

/-- The server has answered a second save. -/
def savedTwiceEditor : Editor :=
  { savedEditor with layouts := (servedCall.eval Layouts.answer savedEditor.layouts).2 }

/-- The second save is served. -/
def secondServed : EditorEvent :=
  .served sentPayload (servedCall.eval Layouts.answer savedEditor.layouts).1

/-- The history of it. -/
def savedTwiceHistory : EditorHistory :=
  [({ savedEditor with sent := [sentPayload] }, secondServed), (savedEditor, .save sentPayload)] ++
    savedHistory

end Scenario

open Scenario

/-- A client that saves once. -/
theorem no_conflict_saved :
    Run EditorInit (EditorStep 2) savedHistory savedEditor ∧ ∀ e ∈ savedHistory, ¬ e.2.Refused :=
  ⟨run_savedHistory, no_conflict run_savedHistory
    ⟨trivial, ⟨rfl, by
      intro e he
      rcases List.mem_cons.mp he with rfl | he
      · exact id
      · obtain rfl := List.mem_singleton.mp he
        exact id⟩, trivial, trivial, trivial⟩⟩

/-- **The second save of a client is refused**: it presents the etag of the layout that was loaded,
and the server holds the one that it saved. -/
theorem second_save_refused :
    Run EditorInit (EditorStep 2) savedTwiceHistory savedTwiceEditor ∧
      ({ savedEditor with sent := [sentPayload] }, secondServed) ∈ savedTwiceHistory ∧
      secondServed.Refused := by
  have hsave : EditorStep 2 savedEditor (.save sentPayload)
      { savedEditor with sent := [sentPayload] } := .save rfl rfl
  have hserved : EditorStep 2 { savedEditor with sent := [sentPayload] } secondServed
      savedTwiceEditor :=
    .served 3 4 (show _ = [] ++ sentPayload :: [] from rfl) (Prog.exec_eval fun _ _ => rfl)
  exact ⟨(run_savedHistory.snoc hsave).snoc hserved, List.mem_cons_self, sentPayload, rfl⟩

end Klynt
