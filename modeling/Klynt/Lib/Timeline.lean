import Mathlib.Data.List.Infix
import Mathlib.Logic.Relation
import Klynt.Lib.Prog

set_option relaxedAutoImplicit false
set_option autoImplicit false

/-!
# Runs that remember every moment

An environment whose state also moves by itself (a clock) before each request, and that keeps
all states a run has been in.  A statement about "some moment between two others" is then a
statement about a list.

## Main definitions

* `Timeline` — the current state with the earlier ones, newest first.
* `Timeline.Env` — an environment on states as an environment on timelines.
* `Timeline.answer` — the deterministic one, in which nothing moves by itself.

## Main results

* `Timeline.suffix_of_exec` — a run forgets no moment.
* `Timeline.env_answer` — the deterministic environment is one of those the relation allows.
-/

/-- The current state of a system and the states before it, newest first. -/
structure Timeline (σ : Type) where
  /-- The current state. -/
  world : σ
  /-- The earlier states. -/
  past : List σ

namespace Timeline

variable {Req : Type} {Ans : Req → Type} {ε α σ : Type} {adv : σ → σ → Prop}
  {E : (q : Req) → σ → Ans q → σ → Prop} {h h' h'' : Timeline σ}

/-- All states so far. -/
def moments (h : Timeline σ) : List σ := h.world :: h.past

/-- The timeline after one more state. -/
def push (h : Timeline σ) (w : σ) : Timeline σ := ⟨w, h.moments⟩

/-- The state of a pushed timeline. -/
@[simp] theorem world_push (h : Timeline σ) (w : σ) : (h.push w).world = w := rfl

/-- The moments of a pushed timeline. -/
@[simp] theorem moments_push (h : Timeline σ) (w : σ) : (h.push w).moments = w :: h.moments := rfl

/-- The current state is a moment. -/
theorem world_mem (h : Timeline σ) : h.world ∈ h.moments := List.mem_cons_self

/-- A request on a timeline: the state moves by itself, the request is answered, and the new
state is kept. -/
def Env (adv : σ → σ → Prop) (E : (q : Req) → σ → Ans q → σ → Prop) (q : Req) (h : Timeline σ)
    (a : Ans q) (h' : Timeline σ) : Prop :=
  ∃ w w', adv h.world w ∧ E q w a w' ∧ h' = h.push w'

/-- One step of a relation on states, on timelines. -/
def Step (R : σ → σ → Prop) (h h' : Timeline σ) : Prop := ∃ w, R h.world w ∧ h' = h.push w

/-- Reached by steps of a relation on timelines. -/
abbrev Reach (R : Timeline σ → Timeline σ → Prop) : Timeline σ → Timeline σ → Prop :=
  Relation.ReflTransGen R

/-- **A run forgets no moment.** -/
theorem suffix_of_exec {p : Prog Req Ans ε α} {r : Except ε α}
    (hp : p.Exec (Env adv E) h r h') : h.moments <:+ h'.moments := by
  induction p generalizing h with
  | done r₀ => obtain ⟨-, rfl⟩ := hp; exact List.suffix_rfl
  | ask q k ih =>
    obtain ⟨a, h₁, ⟨w, w', -, -, rfl⟩, hk⟩ := hp
    exact (List.suffix_cons w' h.moments).trans (ih a hk)

/-- Answers by a function, in which nothing moves by itself. -/
def answer (f : (q : Req) → σ → Ans q × σ) (q : Req) (h : Timeline σ) : Ans q × Timeline σ :=
  ((f q h.world).1, h.push (f q h.world).2)

/-- The function answers as the relation allows. -/
theorem env_answer {f : (q : Req) → σ → Ans q × σ} (hadv : ∀ w, adv w w)
    (hf : ∀ q w, E q w (f q w).1 (f q w).2) (q : Req) (h : Timeline σ) :
    Env adv E q h (answer f q h).1 (answer f q h).2 :=
  ⟨h.world, _, hadv _, hf q h.world, rfl⟩

end Timeline
