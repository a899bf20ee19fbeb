import Klynt.Lib.Run
import Mathlib.Data.Set.Insert

set_option relaxedAutoImplicit false
set_option autoImplicit false

/-!
# Simulations between systems

Two systems are compared by what an observer sees of their runs: of some steps a part of the label,
of the others nothing.  A simulation matches every step of one system by a step of the other that
looks the same; a step that shows nothing may also be matched by no step at all.

## Main definitions

* `Run.observed`, `Run.Traces` — what is seen of a history, and of all runs of a system.
* `Simulates` — a simulation.

## Main results

* `Simulates.run` — every run is matched by a run that looks the same.
* `Run.traces_eq` — systems that simulate each other look the same.
-/

variable {σ τ ℓ κ ο : Type} {init : σ → Prop} {step : σ → ℓ → σ → Prop} {obs : ℓ → Option ο}
  {init' : τ → Prop} {step' : τ → κ → τ → Prop} {obs' : κ → Option ο} {R : σ → τ → Prop}

namespace Run

/-- What is seen of a history, latest first. -/
def observed (obs : ℓ → Option ο) (tr : List (σ × ℓ)) : List ο := tr.filterMap fun e => obs e.2

/-- A step that shows nothing. -/
theorem observed_cons_none {tr : List (σ × ℓ)} {s : σ} {l : ℓ} (h : obs l = none) :
    observed obs ((s, l) :: tr) = observed obs tr := List.filterMap_cons_none h

/-- Two steps that look the same. -/
theorem observed_cons_congr {tr : List (σ × ℓ)} {tr' : List (τ × κ)} {s : σ} {t : τ} {l : ℓ} {k : κ}
    (h : obs' k = obs l) (htr : observed obs' tr' = observed obs tr) :
    observed obs' ((t, k) :: tr') = observed obs ((s, l) :: tr) := by
  unfold observed at htr ⊢
  rw [List.filterMap_cons, List.filterMap_cons, htr, h]

/-- What is seen of the runs of a system. -/
def Traces (init : σ → Prop) (step : σ → ℓ → σ → Prop) (obs : ℓ → Option ο) : Set (List ο) :=
  {seen | ∃ tr s, Run init step tr s ∧ observed obs tr = seen}

end Run

/-- Every step from related states is matched by a step that looks the same and leads to related
states, or it shows nothing and leads to a state that is still related. -/
def Simulates (step : σ → ℓ → σ → Prop) (obs : ℓ → Option ο) (step' : τ → κ → τ → Prop)
    (obs' : κ → Option ο) (R : σ → τ → Prop) : Prop :=
  ∀ s l s' t, R s t → step s l s' →
    (obs l = none ∧ R s' t) ∨ ∃ k t', step' t k t' ∧ obs' k = obs l ∧ R s' t'

/-- **Runs are simulated**: for every run there is a run of the other system that looks the same and
ends in a related state.

**Proof sketch.** Induction on the run; the last step is matched by a step or by none. -/
theorem Simulates.run (h : Simulates step obs step' obs' R)
    (h0 : ∀ s, init s → ∃ t, init' t ∧ R s t) {tr : List (σ × ℓ)} {s : σ}
    (hr : Run init step tr s) :
    ∃ tr' t, Run init' step' tr' t ∧ Run.observed obs' tr' = Run.observed obs tr ∧ R s t := by
  induction hr with
  | @start s hi =>
    obtain ⟨t, ht, hR⟩ := h0 s hi
    exact ⟨[], t, .start ht, rfl, hR⟩
  | @snoc tr s s' l hrun hstep ih =>
    obtain ⟨tr', t, hrun', hseen, hR⟩ := ih
    obtain ⟨hnone, hR'⟩ | ⟨k, t', hstep', hsame, hR'⟩ := h s l s' t hR hstep
    · exact ⟨tr', t, hrun', hseen.trans (Run.observed_cons_none hnone).symm, hR'⟩
    · exact ⟨(t, k) :: tr', t', hrun'.snoc hstep', Run.observed_cons_congr hsame hseen, hR'⟩

/-- **What is seen of a system is seen of a system that simulates it.** -/
theorem Simulates.traces_subset (h : Simulates step obs step' obs' R)
    (h0 : ∀ s, init s → ∃ t, init' t ∧ R s t) :
    Run.Traces init step obs ⊆ Run.Traces init' step' obs' := by
  rintro seen ⟨tr, s, hr, rfl⟩
  obtain ⟨tr', t, hr', hseen, -⟩ := h.run h0 hr
  exact ⟨tr', t, hr', hseen⟩

/-- **Systems that simulate each other look the same.** -/
theorem Run.traces_eq {R' : τ → σ → Prop} (h : Simulates step obs step' obs' R)
    (h' : Simulates step' obs' step obs R') (h0 : ∀ s, init s → ∃ t, init' t ∧ R s t)
    (h0' : ∀ t, init' t → ∃ s, init s ∧ R' t s) :
    Run.Traces init step obs = Run.Traces init' step' obs' :=
  Set.Subset.antisymm (h.traces_subset h0) (h'.traces_subset h0')
