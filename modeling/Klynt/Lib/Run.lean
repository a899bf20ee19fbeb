import Mathlib.Data.List.Basic

set_option relaxedAutoImplicit false
set_option autoImplicit false

/-!
# Runs of labelled transition systems

A run records every state it left and the label of the step taken there, newest first, so
that a statement about a whole history ("some earlier state", "before that step") is a
statement about a list.

## Main definitions

* `Run` — the runs of a step relation from an initial predicate.
* `Run.steps` — the steps of a run with the states they lead to.
* `Run.Along` — what every step of a history satisfies, given the history before it.
* `Precedes` — in a newest-first history, some `a`-event is older than some `b`-event.

## Main results

* `Run.invariant`, `Run.invariant_mem` — an inductive invariant holds at the end of a run
  and in every state the run left.
* `Run.split` — a run that took a step splits there into two runs.
-/

/-- Runs of `step` from a state satisfying `init`: the states left with the labels taken
there, newest first, and the state reached. -/
inductive Run {σ ℓ : Type} (init : σ → Prop) (step : σ → ℓ → σ → Prop) :
    List (σ × ℓ) → σ → Prop
  /-- The empty run. -/
  | start {s : σ} : init s → Run init step [] s
  /-- One more step. -/
  | snoc {tr : List (σ × ℓ)} {s s' : σ} {l : ℓ} :
      Run init step tr s → step s l s' → Run init step ((s, l) :: tr) s'

namespace Run

variable {σ ℓ : Type} {init : σ → Prop} {step : σ → ℓ → σ → Prop} {I : σ → Prop}
  {tr : List (σ × ℓ)} {s : σ}

/-- **The invariant rule.** What holds initially and is kept by every step holds at the end
of every run. -/
theorem invariant (h0 : ∀ s, init s → I s) (hs : ∀ s l s', I s → step s l s' → I s')
    (h : Run init step tr s) : I s := by
  induction h with
  | start hi => exact h0 _ hi
  | snoc _ hstep ih => exact hs _ _ _ ih hstep

/-- An inductive invariant also holds in every state the run left. -/
theorem invariant_mem (h0 : ∀ s, init s → I s) (hs : ∀ s l s', I s → step s l s' → I s')
    (h : Run init step tr s) : ∀ e ∈ tr, I e.1 := by
  induction h with
  | start hi => simp
  | snoc hrun hstep ih =>
    intro e he
    rcases List.mem_cons.mp he with rfl | he
    · exact invariant h0 hs hrun
    · exact ih e he

/-- The invariant rule for steps restricted by a condition on the state and label they
leave from. -/
theorem invariant_of_forall {C : σ → ℓ → Prop} (h0 : ∀ s, init s → I s)
    (hs : ∀ s l s', I s → C s l → step s l s' → I s')
    (h : Run init step tr s) (hC : ∀ e ∈ tr, C e.1 e.2) : I s := by
  induction h with
  | start hi => exact h0 _ hi
  | snoc _ hstep ih =>
    exact hs _ _ _ (ih fun e he => hC e (List.mem_cons_of_mem _ he))
      (hC _ List.mem_cons_self) hstep

/-- A run from fewer states is a run. -/
theorem mono_init {init' : σ → Prop} (hi : ∀ s, init s → init' s) (h : Run init step tr s) :
    Run init' step tr s := by
  induction h with
  | start h0 => exact .start (hi _ h0)
  | snoc _ hstep ih => exact .snoc ih hstep

/-- A run is a run of more steps. -/
theorem mono_step {step' : σ → ℓ → σ → Prop} (hs : ∀ s l s', step s l s' → step' s l s')
    (h : Run init step tr s) : Run init step' tr s := by
  induction h with
  | start hi => exact .start hi
  | snoc _ hstep ih => exact ih.snoc (hs _ _ _ hstep)

/-- A run starts somewhere. -/
theorem exists_start (h : Run init step tr s) : ∃ s₀, init s₀ ∧ Run (· = s₀) step tr s := by
  induction h with
  | start hi => exact ⟨_, hi, .start rfl⟩
  | snoc _ hstep ih =>
    obtain ⟨s₀, hi, hrun⟩ := ih
    exact ⟨s₀, hi, .snoc hrun hstep⟩

/-- A run continued by a run from the state it reached. -/
theorem append {tr' : List (σ × ℓ)} {s' : σ} (h : Run init step tr s)
    (h' : Run (· = s) step tr' s') : Run init step (tr' ++ tr) s' := by
  induction h' with
  | start hi => subst hi; exact h
  | snoc _ hstep ih => exact .snoc ih hstep

/-- A run cut at any point of its history: the older part is a run, and the newer part is a
run from the state the older part reached. -/
theorem split {tr₁ tr₂ : List (σ × ℓ)} (h : Run init step (tr₁ ++ tr₂) s) :
    ∃ m, Run init step tr₂ m ∧ Run (· = m) step tr₁ s := by
  induction tr₁ generalizing s with
  | nil => exact ⟨s, h, .start rfl⟩
  | cons e tr₁ ih =>
    cases h with
    | snoc hrun hstep =>
      obtain ⟨m, hm, hms⟩ := ih hrun
      exact ⟨m, hm, .snoc hms hstep⟩

/-- Every state the run left was reached by an older part of it, and its step was taken. -/
theorem of_mem (h : Run init step tr s) {e : σ × ℓ} (he : e ∈ tr) :
    ∃ tr₁ tr₂ m, tr = tr₁ ++ e :: tr₂ ∧ Run init step tr₂ e.1 ∧ step e.1 e.2 m ∧
      Run (· = m) step tr₁ s := by
  obtain ⟨tr₁, tr₂, rfl⟩ := List.append_of_mem he
  obtain ⟨m, hm, hms⟩ := split h
  cases hm with
  | snoc hrun hstep => exact ⟨tr₁, tr₂, m, rfl, hrun, hstep, hms⟩

/-- The steps of a run with the states they lead to, newest first. -/
def steps : List (σ × ℓ) → σ → List (σ × ℓ × σ)
  | [], _ => []
  | (s, l) :: older, s' => (s, l, s') :: steps older s

/-- Every step of a run was taken from a state the run left. -/
theorem mem_of_steps {e : σ × ℓ × σ} (he : e ∈ steps tr s) : (e.1, e.2.1) ∈ tr := by
  induction tr generalizing s with
  | nil => cases he
  | cons x older ih =>
    rcases List.mem_cons.mp he with rfl | he
    · exact List.mem_cons_self
    · exact List.mem_cons_of_mem _ (ih he)

/-- Every step of a run is a step. -/
theorem step_of_steps (h : Run init step tr s) : ∀ e ∈ steps tr s, step e.1 e.2.1 e.2.2 := by
  induction h with
  | start hi => exact fun e he => nomatch he
  | snoc _ hstep ih =>
    intro e he
    rcases List.mem_cons.mp he with rfl | he
    · exact hstep
    · exact ih e he

/-- After every step of a run, the run goes on from the state the step led to. -/
theorem run_of_steps (h : Run init step tr s) {e : σ × ℓ × σ} (he : e ∈ steps tr s) :
    ∃ newer, Run (· = e.2.2) step newer s := by
  induction h with
  | start hi => exact nomatch he
  | snoc _ hstep ih =>
    rcases List.mem_cons.mp he with rfl | he
    · exact ⟨[], .start rfl⟩
    · obtain ⟨newer, hnewer⟩ := ih he
      exact ⟨_, hnewer.snoc hstep⟩

/-- Along a history, every step satisfies `C` in the state it left, given the history before
it. -/
def Along (C : List (σ × ℓ) → σ → ℓ → Prop) : List (σ × ℓ) → Prop
  | [] => True
  | (s, l) :: older => C older s l ∧ Along C older

section Along

variable {C C' : List (σ × ℓ) → σ → ℓ → Prop}

/-- What one step of a run satisfies, given its history, holds along the run. -/
theorem along (h : Run init step tr s)
    (hC : ∀ older s l s', Run init step older s → step s l s' → C older s l) : Along C tr := by
  induction h with
  | start hi => trivial
  | snoc hrun hstep ih => exact ⟨hC _ _ _ _ hrun hstep, ih⟩

/-- Two properties of every step. -/
theorem Along.and (h : Along C tr) (h' : Along C' tr) :
    Along (fun older s l => C older s l ∧ C' older s l) tr := by
  induction tr with
  | nil => trivial
  | cons e older ih => exact ⟨⟨h.1, h'.1⟩, ih h.2 h'.2⟩

/-- A step of the history, with the history before it. -/
theorem Along.of_mem (h : Along C tr) {e : σ × ℓ} (he : e ∈ tr) :
    ∃ newer older, tr = newer ++ e :: older ∧ C older e.1 e.2 := by
  induction tr with
  | nil => cases he
  | cons x older ih =>
    rcases List.mem_cons.mp he with rfl | he
    · exact ⟨[], older, rfl, h.1⟩
    · obtain ⟨newer, older', rfl, hC⟩ := ih h.2 he
      exact ⟨x :: newer, older', rfl, hC⟩

/-- The step at a given place of the history. -/
theorem Along.of_append {newer older : List (σ × ℓ)} {e : σ × ℓ}
    (h : Along C (newer ++ e :: older)) : C older e.1 e.2 := by
  induction newer with
  | nil => exact h.1
  | cons x newer ih => exact ih h.2

/-- Of two entries of a history, one is the older one. -/
theorem older_of_mem {e e' : σ × ℓ} (he : e ∈ tr) (he' : e' ∈ tr) (hne : e ≠ e') :
    ∃ newer older, (tr = newer ++ e :: older ∧ e' ∈ older) ∨
      (tr = newer ++ e' :: older ∧ e ∈ older) := by
  obtain ⟨newer, older, rfl⟩ := List.append_of_mem he
  rcases List.mem_append.mp he' with hnew | hold
  · obtain ⟨n₁, n₂, rfl⟩ := List.append_of_mem hnew
    refine ⟨n₁, n₂ ++ e :: older, .inr ⟨by simp, ?_⟩⟩
    exact List.mem_append_right _ List.mem_cons_self
  · rcases List.mem_cons.mp hold with heq | hold
    · exact absurd heq.symm hne
    · exact ⟨newer, older, .inl ⟨rfl, hold⟩⟩

/-- Weakening a property of every step, which may use the whole history around it. -/
theorem Along.mono (h : Along C tr)
    (hC : ∀ newer older s l, tr = newer ++ (s, l) :: older → C older s l → C' older s l) :
    Along C' tr := by
  induction tr with
  | nil => trivial
  | cons e older ih =>
    refine ⟨hC [] older e.1 e.2 rfl h.1, ih h.2 fun newer older' s l heq => ?_⟩
    exact hC (e :: newer) older' s l (by rw [heq]; rfl)

end Along

end Run

/-- In a history listed newest first, some event satisfying `a` is strictly older than some
event satisfying `b`. -/
def Precedes {ℓ : Type} (a b : ℓ → Prop) : List ℓ → Prop
  | [] => False
  | e :: older => (b e ∧ ∃ x ∈ older, a x) ∨ Precedes a b older

section Precedes

variable {ℓ : Type} {a b : ℓ → Prop} {e : ℓ} {older : List ℓ}

/-- Nothing precedes anything in the empty history. -/
@[simp] theorem precedes_nil : ¬ Precedes a b [] := id

/-- The newest event is preceded by what is older than it. -/
@[simp] theorem precedes_cons :
    Precedes a b (e :: older) ↔ (b e ∧ ∃ x ∈ older, a x) ∨ Precedes a b older := Iff.rfl

/-- An event that is not a `b`-event adds no precedence. -/
theorem precedes_cons_of_not (h : ¬ b e) : Precedes a b (e :: older) ↔ Precedes a b older :=
  ⟨fun hp => hp.resolve_left fun hb => h hb.1, .inr⟩

/-- The earlier event of a precedence is in the history. -/
theorem Precedes.exists_left (h : Precedes a b older) : ∃ x ∈ older, a x := by
  induction older with
  | nil => exact h.elim
  | cons e older ih =>
    rcases h with ⟨-, x, hx, ha⟩ | h
    · exact ⟨x, List.mem_cons_of_mem _ hx, ha⟩
    · obtain ⟨x, hx, ha⟩ := ih h
      exact ⟨x, List.mem_cons_of_mem _ hx, ha⟩

/-- The later event of a precedence is in the history. -/
theorem Precedes.exists_right (h : Precedes a b older) : ∃ x ∈ older, b x := by
  induction older with
  | nil => exact h.elim
  | cons e older ih =>
    rcases h with ⟨hb, -⟩ | h
    · exact ⟨e, List.mem_cons_self, hb⟩
    · obtain ⟨x, hx, hbx⟩ := ih h
      exact ⟨x, List.mem_cons_of_mem _ hx, hbx⟩

/-- A precedence, at its later event. -/
theorem precedes_iff_append :
    Precedes a b older ↔ ∃ newer e rest, older = newer ++ e :: rest ∧ b e ∧ ∃ x ∈ rest, a x := by
  induction older with
  | nil => simp
  | cons e older ih =>
    rw [precedes_cons, ih]
    constructor
    · rintro (⟨hb, hx⟩ | ⟨newer, e', rest, rfl, hb, hx⟩)
      · exact ⟨[], e, older, rfl, hb, hx⟩
      · exact ⟨e :: newer, e', rest, rfl, hb, hx⟩
    · rintro ⟨newer, e', rest, heq, hb, hx⟩
      cases newer with
      | nil =>
        obtain ⟨rfl, rfl⟩ := List.cons.inj heq
        exact .inl ⟨hb, hx⟩
      | cons y newer =>
        obtain ⟨rfl, rfl⟩ := List.cons.inj heq
        exact .inr ⟨newer, e', rest, rfl, hb, hx⟩

end Precedes
