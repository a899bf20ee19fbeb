import Mathlib.Logic.Function.Basic
import Klynt.Lib.Prog
import Klynt.Lib.Run

set_option relaxedAutoImplicit false
set_option autoImplicit false

/-!
# Interleavings of programs

A pool is a family of programs over one shared state.  A step of the pool lets one program
issue its next request, which is atomic, or lets the environment move the state (the clock
advances, say).  Runs of the pool are all interleavings, with their history of requests and
answers.

## Main definitions

* `Pool`, `Pool.Step` — programs over a shared state, and one atomic step.
* `Pool.log` — the requests and answers of a history, newest first.
* `Pool.schedule` — the interleaving given by a list of thread names.

## Main results

* `Pool.Step.all` — what every possible request of a thread satisfies stays so.
* `Pool.run_schedule` — a schedule is a run.
-/

/-- A request together with its answer. -/
abbrev Prog.Event (Req : Type) (Ans : Req → Type) : Type := (q : Req) × Ans q

/-- Programs `threads i` over a shared state. -/
structure Pool (ι Req : Type) (Ans : Req → Type) (ε α σ : Type) where
  /-- What remains of each program. -/
  threads : ι → Prog Req Ans ε α
  /-- The shared state. -/
  world : σ

namespace Pool

variable {ι Req : Type} {Ans : Req → Type} {ε α σ : Type}

/-- The label of a step: which thread issued which request and got which answer, or `none`
for a move of the environment. -/
abbrev Label (ι Req : Type) (Ans : Req → Type) : Type := Option (ι × Prog.Event Req Ans)

/-- The requests and answers of a history, newest first. -/
def log (tr : List (Pool ι Req Ans ε α σ × Label ι Req Ans)) : List (ι × Prog.Event Req Ans) :=
  tr.filterMap (·.2)

/-- The log of the empty history is empty. -/
@[simp] theorem log_nil : log ([] : List (Pool ι Req Ans ε α σ × Label ι Req Ans)) = [] := rfl

/-- A request is appended to the log. -/
@[simp] theorem log_cons_some (P : Pool ι Req Ans ε α σ) (e : ι × Prog.Event Req Ans)
    (tr : List (Pool ι Req Ans ε α σ × Label ι Req Ans)) :
    log ((P, some e) :: tr) = e :: log tr := rfl

/-- A move of the environment leaves no trace in the log. -/
@[simp] theorem log_cons_none (P : Pool ι Req Ans ε α σ)
    (tr : List (Pool ι Req Ans ε α σ × Label ι Req Ans)) :
    log ((P, none) :: tr) = log tr := rfl

/-- The events of the log are those of the labels. -/
theorem mem_log {tr : List (Pool ι Req Ans ε α σ × Label ι Req Ans)} {x : ι × Prog.Event Req Ans} :
    x ∈ log tr ↔ ∃ P, (P, some x) ∈ tr := by
  simp [log, List.mem_filterMap]

/-- The log of a history that goes on. -/
@[simp] theorem log_append (tr tr' : List (Pool ι Req Ans ε α σ × Label ι Req Ans)) :
    log (tr ++ tr') = log tr ++ log tr' := List.filterMap_append

variable [DecidableEq ι]

/-- One step of a pool: a thread's next request is answered as `E` allows, or the
environment moves the state as `T` allows. -/
inductive Step (E : (q : Req) → σ → Ans q → σ → Prop) (T : σ → σ → Prop) :
    Pool ι Req Ans ε α σ → Label ι Req Ans → Pool ι Req Ans ε α σ → Prop
  /-- Thread `i` issues its next request. -/
  | run {P : Pool ι Req Ans ε α σ} {i : ι} {q : Req} {k : Ans q → Prog Req Ans ε α} {a : Ans q}
      {w : σ} (hi : P.threads i = .ask q k) (hE : E q P.world a w) :
      Step E T P (some (i, ⟨q, a⟩)) ⟨Function.update P.threads i (k a), w⟩
  /-- The environment moves. -/
  | tick {P : Pool ι Req Ans ε α σ} {w : σ} (hT : T P.world w) : Step E T P none ⟨P.threads, w⟩

section Step

variable {E : (q : Req) → σ → Ans q → σ → Prop} {T : σ → σ → Prop}
  {P P' : Pool ι Req Ans ε α σ} {l : Label ι Req Ans}

/-- What every request a thread can issue satisfies stays so along a step. -/
theorem Step.all {φ : Req → Prop} {j : ι} (h : Step E T P l P') (hφ : (P.threads j).All φ) :
    (P'.threads j).All φ := by
  cases h with
  | tick hT => exact hφ
  | @run i q k a w hi hE =>
    by_cases hj : j = i
    · subst hj
      rw [hi] at hφ
      simpa using hφ.2 a
    · simpa [Function.update_of_ne hj] using hφ

end Step

/-- The history and the pool reached when the threads named by a list issue their requests in
that order against a deterministic environment; a finished thread is passed over. -/
def schedule (h : (q : Req) → σ → Ans q × σ) : List ι → Pool ι Req Ans ε α σ →
    List (Pool ι Req Ans ε α σ × Label ι Req Ans) →
    List (Pool ι Req Ans ε α σ × Label ι Req Ans) × Pool ι Req Ans ε α σ
  | [], P, tr => (tr, P)
  | i :: is, P, tr =>
    match P.threads i with
    | .done _ => schedule h is P tr
    | .ask q k => schedule h is
        ⟨Function.update P.threads i (k (h q P.world).1), (h q P.world).2⟩
        ((P, some (i, ⟨q, (h q P.world).1⟩)) :: tr)

/-- **A schedule is a run** of the pool. -/
theorem run_schedule {E : (q : Req) → σ → Ans q → σ → Prop} {T : σ → σ → Prop}
    {init : Pool ι Req Ans ε α σ → Prop} {h : (q : Req) → σ → Ans q × σ}
    (hE : ∀ q s, E q s (h q s).1 (h q s).2) (is : List ι) {P : Pool ι Req Ans ε α σ}
    {tr : List (Pool ι Req Ans ε α σ × Label ι Req Ans)} (hr : Run init (Step E T) tr P) :
    Run init (Step E T) (schedule h is P tr).1 (schedule h is P tr).2 := by
  induction is generalizing P tr with
  | nil => exact hr
  | cons i is ih =>
    unfold schedule
    split
    · exact ih hr
    · rename_i q k hi
      exact ih (hr.snoc (.run hi (hE q P.world)))

end Pool
