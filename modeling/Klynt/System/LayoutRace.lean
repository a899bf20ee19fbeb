import Klynt.Lib.Wp
import Klynt.Service.DesktopLayout

set_option relaxedAutoImplicit false
set_option autoImplicit false

/-!
# Two clients replace a shared layout

Two clients that have seen the same layout replace it at the same time.  Each call looks the
layout up, compares its etag and writes, and between the two requests the other call may write.

## Main definitions

* `LayoutSave`, `LayoutSave.run` — a call that replaces the shared layout of a tenant.
* `NoLostUpdate` — one call returned at most, and its layout is the one that is kept.

## Main results

* `no_lost_update_iff` — no update is lost exactly if one call looks the layout up after the other
  one has stored a layout with another etag.
* `lost_update` — an interleaving in which both calls return.
-/

namespace Klynt

/-! ## The calls -/

/-- What a client sends to replace a layout, with the UUIDs the route draws. -/
structure LayoutSave where
  /-- The body of the request. -/
  payload : LayoutPayload
  /-- The id of the new layout. -/
  id : Uuid
  /-- The etag of the new layout. -/
  etag : Uuid

/-- The shared layout a client saves. -/
def LayoutSave.layout (save : LayoutSave) (t : Uuid) : TenantDesktopLayout :=
  buildLayout t .shared none save.payload save.id save.etag

/-- The call that saves it. -/
def LayoutSave.run (save : LayoutSave) (t : Uuid) : LayoutAction TenantDesktopLayout :=
  TenantDesktopLayoutService.updateShared t (save.layout t) save.payload.etag

/-- The key of the shared layout of a tenant. -/
def sharedKey (t : Uuid) : LayoutKey := (t, .shared, none)

/-- A saved layout has the key of the shared layout. -/
@[simp] lemma LayoutSave.key_layout (save : LayoutSave) (t : Uuid) :
    (save.layout t).key = sharedKey t := rfl

/-- Two clients over one repository. -/
abbrev LayoutPool : Type := Pool Bool LayoutReq LayoutAns TenantError TenantDesktopLayout Layouts

/-- The history of two clients. -/
abbrev LayoutHistory : Type := List (LayoutPool × Pool.Label Bool LayoutReq LayoutAns)

/-- The calls are about to start. -/
def LayoutInit (t : Uuid) (saves : Bool → LayoutSave) (s₀ : Layouts) (P : LayoutPool) : Prop :=
  (∀ i, P.threads i = (saves i).run t) ∧ P.world = s₀

/-- The two calls, request by request; nobody else changes the repository. -/
abbrev LayoutStep : LayoutPool → Pool.Label Bool LayoutReq LayoutAns → LayoutPool → Prop :=
  Pool.Step Layouts.Env fun _ _ => False

/-- One call returned at most, and its layout is the one that is kept. -/
def NoLostUpdate (t : Uuid) (saves : Bool → LayoutSave) (P : LayoutPool) : Prop :=
  (∀ i j r r', P.threads i = .done (.ok r) → P.threads j = .done (.ok r') → i = j) ∧
    ∀ i r, P.threads i = .done (.ok r) → P.world (sharedKey t) = some ((saves i).layout t)

/-- A step of client `i` that looks a layout up. -/
def LooksUpLayout (i : Bool) (x : LayoutPool × Pool.Label Bool LayoutReq LayoutAns) : Prop :=
  ∃ t scope u a, x.2 = some (i, ⟨.find t scope u, a⟩)

/-- A step of client `i` that stores a layout. -/
def StoresLayout (i : Bool) (x : LayoutPool × Pool.Label Bool LayoutReq LayoutAns) : Prop :=
  ∃ layout a, x.2 = some (i, ⟨.upsert layout, a⟩)

/-! ## What a call does -/

/-- The event of a lookup of the shared layout. -/
def layoutFound (t : Uuid) (c : Option TenantDesktopLayout) : Prog.Event LayoutReq LayoutAns :=
  ⟨.find t .shared none, (.ok c : Except DomainError (Option TenantDesktopLayout))⟩

/-- The event of a layout that was stored. -/
def layoutStored (layout : TenantDesktopLayout) : Prog.Event LayoutReq LayoutAns :=
  ⟨.upsert layout, (.ok layout : Except DomainError TenantDesktopLayout)⟩

/-- The layout of a lookup. -/
lemma layoutFound_inj {t : Uuid} {c c' : Option TenantDesktopLayout}
    (h : layoutFound t c = layoutFound t c') : c = c' :=
  Except.ok.inj (eq_of_heq (Sigma.mk.inj h).2)

namespace LayoutSave

variable (save : LayoutSave) (t : Uuid)

/-- What a call may request: first the layout, then that its own one is stored. -/
def May (h : List (Prog.Event LayoutReq LayoutAns)) (q : LayoutReq) : Prop :=
  (h = [] ∧ q = .find t .shared none) ∨
    (∃ a, h = [⟨.find t .shared none, a⟩]) ∧ q = .upsert (save.layout t)

/-- How a call ends: the repository failed, or the layout found had another etag, or the call's
own layout was sent to the repository. -/
def Ends (r : Except TenantError TenantDesktopLayout) (h : List (Prog.Event LayoutReq LayoutAns)) :
    Prop :=
  (∃ e : DomainError, h = [⟨.find t .shared none, Except.error e⟩]) ∨
  ∃ c, (c.any (·.etag ≠ save.payload.etag) = true ∧ h = [layoutFound t c] ∧ ∃ e, r = .error e) ∨
    (c.any (·.etag ≠ save.payload.etag) = false ∧ ∃ a : Except DomainError TenantDesktopLayout,
      h = [⟨.upsert (save.layout t), a⟩, layoutFound t c] ∧ r = a.mapError .domain)

/-- **A call** looks up, compares and stores. -/
lemma traced : (save.run t).Traced (save.May t) (save.Ends t) [] := by
  refine Prog.wp_bind.mpr (Prog.wp_ask.mpr ⟨.inl ⟨rfl, rfl⟩, ?_⟩)
  rintro (e | c) h rfl
  · exact Prog.wp_done.mpr (.inl ⟨e, rfl⟩)
  refine Prog.wp_done.mpr (Prog.wp_bind.mpr (Prog.wp_rejectIf.mpr ⟨fun hsame => ?_, fun hother => ?_⟩))
  · refine Prog.wp_ask.mpr ⟨.inr ⟨⟨_, rfl⟩, rfl⟩, ?_⟩
    rintro a h rfl
    exact Prog.wp_done.mpr (.inr ⟨c, .inr ⟨Bool.eq_false_iff.mpr hsame, a, rfl, rfl⟩⟩)
  · exact .inr ⟨c, .inl ⟨hother, rfl, _, rfl⟩⟩

end LayoutSave

section Runs

variable {t : Uuid} {saves : Bool → LayoutSave} {s₀ : Layouts} {current : TenantDesktopLayout}
  {tr : LayoutHistory} {P : LayoutPool}

/-- The layout of a client is stored. -/
def StoredBy (t : Uuid) (saves : Bool → LayoutSave)
    (log : List (Bool × Prog.Event LayoutReq LayoutAns)) (i : Bool) : Prop :=
  (i, layoutStored ((saves i).layout t)) ∈ log

/-- The calls keep to their traces. -/
lemma layouts_traced {P : LayoutPool} (hi : LayoutInit t saves s₀ P) (i : Bool) :
    (P.threads i).Traced ((saves i).May t) ((saves i).Ends t) [] := by
  rw [hi.1 i]
  exact (saves i).traced t

/-- Every request of a run is one of its call's. -/
lemma layouts_justified (hr : Run (LayoutInit t saves s₀) LayoutStep tr P) :
    Pool.Justified (fun i => (saves i).May t) (Pool.log tr) :=
  Pool.justified_of_run (fun _ hi i => layouts_traced hi i) hr

/-- A client stores its own layout. -/
lemma upsert_eq (hr : Run (LayoutInit t saves s₀) LayoutStep tr P) {i : Bool}
    {layout : TenantDesktopLayout} {a : LayoutAns (.upsert layout)}
    (h : (i, (⟨.upsert layout, a⟩ : Prog.Event LayoutReq LayoutAns)) ∈ Pool.log tr) :
    layout = (saves i).layout t := by
  obtain ⟨_, _, -, ⟨-, hq⟩ | ⟨-, hq⟩⟩ := (layouts_justified hr).of_mem h
  · cases hq
  · exact LayoutReq.upsert.inj hq

/-- The repository does not fail: an upsert in the log stored the client's layout. -/
lemma storedBy_of_upsert (hr : Run (LayoutInit t saves s₀) LayoutStep tr P) {i : Bool}
    {layout : TenantDesktopLayout} {a : LayoutAns (.upsert layout)}
    (h : (i, (⟨.upsert layout, a⟩ : Prog.Event LayoutReq LayoutAns)) ∈ Pool.log tr) :
    StoredBy t saves (Pool.log tr) i := by
  obtain rfl := upsert_eq hr h
  obtain ⟨Q, hQ⟩ := Pool.mem_log.mp h
  obtain ⟨_, _, m, -, -, hstep, -⟩ := hr.of_mem hQ
  cases hstep with
  | run hi hE =>
    obtain ⟨rfl, -⟩ := Prod.mk.inj hE
    exact h

/-- **The repository agrees with the log**: as long as no client has stored a layout, the first
one is kept, and afterwards that of a client. -/
lemma layout_held (hs : s₀ (sharedKey t) = some current)
    (hr : Run (LayoutInit t saves s₀) LayoutStep tr P) :
    ((∀ i, ¬ StoredBy t saves (Pool.log tr) i) ∧ P.world (sharedKey t) = some current) ∨
      ∃ i, StoredBy t saves (Pool.log tr) i ∧
        P.world (sharedKey t) = some ((saves i).layout t) := by
  induction hr with
  | start hi =>
    rw [hi.2]
    exact .inl ⟨fun _ h => List.not_mem_nil h, hs⟩
  | @snoc older P P' l hrun hstep ih =>
    have hrun' := hrun.snoc hstep
    cases hstep with
    | tick hT => exact hT.elim
    | @run i q k a w hi hE =>
      cases q with
      | find t' scope u =>
        obtain ⟨-, rfl⟩ := Prod.mk.inj hE
        have hsame : ∀ j, StoredBy t saves (Pool.log ((P, some (i, ⟨.find t' scope u, a⟩)) :: older)) j →
            StoredBy t saves (Pool.log older) j := by
          intro j hj
          rcases List.mem_cons.mp hj with heq | hj
          · exact nomatch congrArg (fun e => e.2.1) heq
          · exact hj
        rcases ih with ⟨hnone, hworld⟩ | ⟨j, hj, hworld⟩
        · exact .inl ⟨fun j hj => hnone j (hsame j hj), hworld⟩
        · exact .inr ⟨j, List.mem_cons_of_mem _ hj, hworld⟩
      | upsert layout =>
        have hmem : (i, (⟨.upsert layout, a⟩ : Prog.Event LayoutReq LayoutAns)) ∈
            Pool.log ((P, some (i, ⟨.upsert layout, a⟩)) :: older) := List.mem_cons_self
        have hstored := storedBy_of_upsert hrun' hmem
        obtain rfl := upsert_eq hrun' hmem
        obtain ⟨-, rfl⟩ := Prod.mk.inj hE
        refine .inr ⟨i, hstored, ?_⟩
        exact Function.update_self _ _ _

/-- What a client's lookup has found: the first layout, before anybody stored one, or the other
client's. -/
lemma layout_looked_up (hs : s₀ (sharedKey t) = some current)
    (hr : Run (LayoutInit t saves s₀) LayoutStep tr P) {newer older : LayoutHistory}
    {Q : LayoutPool} {i : Bool} {t' : Uuid} {scope : LayoutScope} {u : Option Uuid}
    {a : LayoutAns (.find t' scope u)}
    (htr : tr = newer ++ (Q, some (i, ⟨.find t' scope u, a⟩)) :: older) :
    (⟨.find t' scope u, a⟩ : Prog.Event LayoutReq LayoutAns) =
        layoutFound t (Q.world (sharedKey t)) ∧
      ((∀ j, ¬ StoredBy t saves (Pool.log older) j) ∧ Q.world (sharedKey t) = some current ∨
        StoredBy t saves (Pool.log older) (!i) ∧
          Q.world (sharedKey t) = some ((saves (!i)).layout t)) := by
  subst htr
  obtain ⟨m, hm, -⟩ := Run.split hr
  cases hm with
  | snoc hrun hstep =>
    have hJ := layouts_justified (hrun.snoc hstep)
    obtain ⟨hfirst, hq⟩ | ⟨-, hq⟩ := hJ.1
    · cases hq
      cases hstep with
      | run hi hE =>
        obtain ⟨rfl, -⟩ := Prod.mk.inj hE
        refine ⟨rfl, (layout_held hs hrun).imp_right ?_⟩
        rintro ⟨j, hj, hworld⟩
        -- the client itself has not stored anything yet
        have hne : j ≠ i := by
          rintro rfl
          have hmine : layoutStored ((saves j).layout t) ∈ ([] : List (Prog.Event _ _)) :=
            hfirst ▸ Pool.mem_mine.mpr hj
          cases hmine
        obtain rfl := Bool.eq_not.mpr hne
        exact ⟨hj, hworld⟩
    · cases hq

/-- **How a call has ended**: it found a layout with the etag it expected and stored its own, or it
found one with another etag and failed. -/
lemma layout_outcome (hr : Run (LayoutInit t saves s₀) LayoutStep tr P) {i : Bool}
    {r : Except TenantError TenantDesktopLayout} (hdone : P.threads i = .done r) :
    ∃ c, (∃ Q, (Q, some (i, layoutFound t c)) ∈ tr) ∧
      (∀ c', layoutFound t c' ∈ Pool.mine i (Pool.log tr) → c' = c) ∧
      (c.any (·.etag ≠ (saves i).payload.etag) = true ∧ (∃ e, r = .error e) ∧
          ¬ StoredBy t saves (Pool.log tr) i ∨
        c.any (·.etag ≠ (saves i).payload.etag) = false ∧ (∃ layout, r = .ok layout) ∧
          StoredBy t saves (Pool.log tr) i) := by
  have htr := Pool.traced_of_run (J := fun i => (saves i).May t) (Q := fun i => (saves i).Ends t)
    (fun _ hi i => layouts_traced hi i) hr i
  rw [hdone] at htr
  have hmem : ∀ e, e ∈ Pool.mine i (Pool.log tr) → ∃ Q, (Q, some (i, e)) ∈ tr :=
    fun e he => Pool.mem_log.mp (Pool.mem_mine.mp he)
  obtain ⟨e, hh⟩ | ⟨c, ⟨hother, hh, e, rfl⟩ | ⟨hsame, a, hh, rfl⟩⟩ := Prog.wp_done.mp htr
  · -- the repository does not fail
    obtain ⟨Q, hQ⟩ := hmem ⟨.find t .shared none, Except.error e⟩ (by rw [hh]; exact List.mem_cons_self)
    obtain ⟨_, _, m, -, -, hstep, -⟩ := hr.of_mem hQ
    cases hstep with
    | run hi hE => exact nomatch (Prod.mk.inj hE).1
  · have hfound := hmem (layoutFound t c) (by rw [hh]; exact List.mem_cons_self)
    refine ⟨c, hfound, fun c' hc' => ?_, .inl ⟨hother, ⟨e, rfl⟩, fun hstored => ?_⟩⟩
    · rw [hh] at hc'
      exact layoutFound_inj (List.mem_singleton.mp hc')
    · have hmine := Pool.mem_mine.mpr hstored
      rw [hh] at hmine
      exact nomatch congrArg Sigma.fst (List.mem_singleton.mp hmine)
  · have hfound := hmem (layoutFound t c)
      (by rw [hh]; exact List.mem_cons_of_mem _ List.mem_cons_self)
    have hstored : StoredBy t saves (Pool.log tr) i := by
      have hmem : (⟨.upsert ((saves i).layout t), a⟩ : Prog.Event LayoutReq LayoutAns) ∈
          Pool.mine i (Pool.log tr) := by
        rw [hh]
        exact List.mem_cons_self
      exact storedBy_of_upsert hr (Pool.mem_mine.mp hmem)
    refine ⟨c, hfound, fun c' hc' => ?_, .inr ⟨hsame, ?_, hstored⟩⟩
    · rw [hh] at hc'
      rcases List.mem_cons.mp hc' with heq | hc'
      · exact nomatch congrArg Sigma.fst heq
      · exact layoutFound_inj (List.mem_singleton.mp hc')
    · have hmine := Pool.mem_mine.mpr hstored
      rw [hh] at hmine
      rcases List.mem_cons.mp hmine with heq | hmine
      · cases heq
        exact ⟨_, rfl⟩
      · exact nomatch congrArg Sigma.fst (List.mem_singleton.mp hmine)

/-- **When no update is lost.**  Two clients that expect the etag of the stored layout replace it,
in any interleaving of their requests.  One call returns at most, and its layout is kept, exactly
if one of the calls looks the layout up after the other one has stored a layout with another etag.

**Proof sketch.** A lookup finds the first layout as long as nobody has stored one, and the other
client's afterwards (`layout_looked_up`).  If each call finds an etag it expects, both return. -/
theorem no_lost_update_iff {expected : String}
    (hexpected : ∀ i, (saves i).payload.etag = expected) (hs : s₀ (sharedKey t) = some current)
    (hetag : current.etag = expected) (hr : Run (LayoutInit t saves s₀) LayoutStep tr P)
    (hdone : ∀ i, ∃ r, P.threads i = .done r) :
    NoLostUpdate t saves P ↔
      ∃ i, (saves (!i)).etag.render ≠ expected ∧ Precedes (StoresLayout (!i)) (LooksUpLayout i) tr := by
  constructor
  · intro hno
    by_contra hcond
    -- otherwise every lookup finds the expected etag
    have hok : ∀ i, ∃ layout, P.threads i = .done (.ok layout) := by
      intro i
      obtain ⟨r, hi⟩ := hdone i
      obtain ⟨c, ⟨Q, hQ⟩, -, ⟨hother, -, -⟩ | ⟨-, ⟨layout, rfl⟩, -⟩⟩ := layout_outcome hr hi
      · obtain ⟨newer, older, htr⟩ := List.append_of_mem hQ
        obtain ⟨hfound, hheld⟩ := layout_looked_up hs hr htr
        have hc : c = Q.world (sharedKey t) := layoutFound_inj hfound
        rw [hexpected, hc] at hother
        rcases hheld with ⟨-, hworld⟩ | ⟨hstored, hworld⟩
        · rw [hworld] at hother
          simp [hetag] at hother
        · rw [hworld] at hother
          refine absurd ⟨i, by simpa [LayoutSave.layout, buildLayout] using hother, ?_⟩ hcond
          obtain ⟨Q', hQ'⟩ := Pool.mem_log.mp hstored
          exact precedes_iff_append.mpr
            ⟨newer, _, older, htr, ⟨_, _, _, _, rfl⟩, _, hQ', _, _, rfl⟩
      · exact ⟨layout, hi⟩
    obtain ⟨l, hl⟩ := hok true
    obtain ⟨l', hl'⟩ := hok false
    exact nomatch hno.1 true false l l' hl hl'
  · rintro ⟨i, hnew, hprec⟩
    -- the call that looks up late finds the other client's etag and fails
    obtain ⟨newer, ⟨Q, l⟩, older, htr, ⟨t', scope, u, a, rfl⟩, ⟨Q', l'⟩, hQ', layout, a', rfl⟩ :=
      precedes_iff_append.mp hprec
    obtain ⟨hfound, hheld⟩ := layout_looked_up hs hr htr
    obtain ⟨m, hm, -⟩ := Run.split (htr ▸ hr)
    have hstored : StoredBy t saves (Pool.log older) (!i) := by
      cases hm with
      | snoc hrun hstep => exact storedBy_of_upsert hrun (Pool.mem_log.mpr ⟨Q', hQ'⟩)
    have hworld : Q.world (sharedKey t) = some ((saves (!i)).layout t) :=
      hheld.elim (fun hnone => absurd hstored (hnone.1 _)) fun h => h.2
    obtain ⟨r, hi⟩ := hdone i
    obtain ⟨c, -, honly, hcases⟩ := layout_outcome hr hi
    have hc : Q.world (sharedKey t) = c := by
      refine honly _ (hfound ▸ Pool.mem_mine.mpr (Pool.mem_log.mpr ⟨Q, ?_⟩))
      rw [htr]
      exact List.mem_append_right _ List.mem_cons_self
    have hother : c.any (·.etag ≠ (saves i).payload.etag) = true := by
      rw [← hc, hworld, hexpected]
      simpa [LayoutSave.layout, buildLayout] using hnew
    obtain ⟨-, ⟨e, rfl⟩, hno⟩ | ⟨hsame, -, -⟩ := hcases
    · have hok : ∀ j layout, P.threads j = .done (.ok layout) → j = !i := by
        intro j layout hj
        refine Bool.eq_not.mpr ?_
        rintro rfl
        exact nomatch hi.symm.trans hj
      refine ⟨fun j k l l' hj hk => (hok j l hj).trans (hok k l' hk).symm, fun j l hj => ?_⟩
      obtain rfl := hok j l hj
      rcases layout_held hs hr with ⟨hnone, -⟩ | ⟨k, hk, hkept⟩
      · obtain ⟨_, -, -, ⟨-, ⟨e', herr⟩, -⟩ | ⟨-, -, hmine⟩⟩ := layout_outcome hr hj
        · exact nomatch herr
        · exact absurd hmine (hnone _)
      · have hne : k ≠ i := by
          rintro rfl
          exact hno hk
        rw [hkept, Bool.eq_not.mpr hne]
    · exact nomatch hother.symm.trans hsame

end Runs

namespace Scenario

/-- The layout both clients have seen. -/
def seenLayout : TenantDesktopLayout :=
  buildLayout ⟨500⟩ .shared none ⟨1, "dunes", [], [], ""⟩ ⟨501⟩ ⟨502⟩

/-- The clients choose another background each. -/
def layoutSaves : Bool → LayoutSave
  | true => ⟨⟨1, "forest", [], [], seenLayout.etag⟩, ⟨503⟩, ⟨504⟩⟩
  | false => ⟨⟨1, "harbour", [], [], seenLayout.etag⟩, ⟨505⟩, ⟨506⟩⟩

/-- A repository that holds the layout they have seen. -/
def seenLayouts : Layouts := fun key => if key = sharedKey ⟨500⟩ then some seenLayout else none

/-- The two calls, with their requests in a given order. -/
def layoutsPlayed (turns : List Bool) : LayoutHistory × LayoutPool :=
  Pool.schedule Layouts.answer turns
    { threads := fun i => (layoutSaves i).run ⟨500⟩, world := seenLayouts } []

/-- They are an interleaving. -/
theorem run_layoutsPlayed (turns : List Bool) :
    Run (LayoutInit ⟨500⟩ layoutSaves seenLayouts) LayoutStep (layoutsPlayed turns).1
      (layoutsPlayed turns).2 :=
  Pool.run_schedule (fun _ _ => rfl) turns (.start ⟨fun _ => rfl, rfl⟩)

end Scenario

/-- Both clients look the layout up before either of them stores one: both calls return. -/
theorem lost_update :
    Run (LayoutInit ⟨500⟩ Scenario.layoutSaves Scenario.seenLayouts) LayoutStep
      (Scenario.layoutsPlayed [true, false, true, false]).1
      (Scenario.layoutsPlayed [true, false, true, false]).2 ∧
    (∀ i, (Scenario.layoutSaves i).payload.etag = Scenario.seenLayout.etag) ∧
    Scenario.seenLayouts (sharedKey ⟨500⟩) = some Scenario.seenLayout ∧
    (∀ i, (Scenario.layoutsPlayed [true, false, true, false]).2.threads i =
      .done (.ok ((Scenario.layoutSaves i).layout ⟨500⟩))) ∧
    ¬ NoLostUpdate ⟨500⟩ Scenario.layoutSaves
      (Scenario.layoutsPlayed [true, false, true, false]).2 := by
  have hdone : ∀ i, (Scenario.layoutsPlayed [true, false, true, false]).2.threads i =
      .done (.ok ((Scenario.layoutSaves i).layout ⟨500⟩)) := by
    intro i
    cases i <;> rfl
  refine ⟨Scenario.run_layoutsPlayed _, fun i => by cases i <;> rfl, rfl, hdone, fun hno => ?_⟩
  exact nomatch hno.1 true false _ _ (hdone true) (hdone false)

/-- One call after the other: the second one looks up what the first one has stored and fails, so
that no update is lost. -/
theorem no_lost_update_played :
    ((Scenario.layoutSaves true).etag.render ≠ Scenario.seenLayout.etag ∧
      Precedes (StoresLayout true) (LooksUpLayout false)
        (Scenario.layoutsPlayed [true, true, false, false]).1) ∧
    NoLostUpdate ⟨500⟩ Scenario.layoutSaves
      (Scenario.layoutsPlayed [true, true, false, false]).2 := by
  have hcond : (Scenario.layoutSaves true).etag.render ≠ Scenario.seenLayout.etag ∧
      Precedes (StoresLayout true) (LooksUpLayout false)
        (Scenario.layoutsPlayed [true, true, false, false]).1 :=
    ⟨by decide +kernel, .inl ⟨⟨_, _, _, _, rfl⟩, _, List.mem_cons_self, _, _, rfl⟩⟩
  refine ⟨hcond, (no_lost_update_iff (fun i => by cases i <;> rfl) rfl rfl
    (Scenario.run_layoutsPlayed _) fun i => ?_).mpr ⟨false, hcond⟩⟩
  cases i
  · exact ⟨_, rfl⟩
  · exact ⟨_, rfl⟩

end Klynt
