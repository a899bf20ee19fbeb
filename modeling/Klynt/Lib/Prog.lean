import Mathlib.Data.List.Forall2
import Mathlib.Tactic.Common

set_option relaxedAutoImplicit false
set_option autoImplicit false

/-!
# Programs that issue requests to an environment

A `Prog` is a program cut at the points where it talks to the world: it is finished, with a
value or an error, or it issues one request and continues with the answer.  One definition of
a use case then serves three readings: run alone against an environment (`Prog.Exec`), run by
a function (`Prog.eval`), or interleaved with other programs request by request.

## Main definitions

* `Prog` — finished, or a request with a continuation; `Prog.bind` makes it an error monad.
* `Prog.Exec` — the runs of a program alone, against a nondeterministic environment.
* `Prog.eval` — the run against a deterministic environment.
* `Prog.All` — every request the program can still issue satisfies a predicate.

## Main results

* `Prog.exec_bind`, `Prog.exec_bind_ok` — a run of a sequence is a run of its parts.
* `Prog.Exec.rel` — what every possible request keeps, the whole run keeps.
* `Prog.exec_iff_eval` — against a deterministic environment the two readings agree.
-/

/-- Rewriting errors does not change a value. -/
@[simp] theorem Except.mapError_eq_ok {ε ε' α : Type} {g : ε → ε'} {x : Except ε α} {a : α} :
    x.mapError g = .ok a ↔ x = .ok a := by
  cases x with
  | ok b => exact ⟨fun h => congrArg _ (Except.ok.inj h), fun h => congrArg _ (Except.ok.inj h)⟩
  | error e => exact ⟨fun h => (by cases h), fun h => (by cases h)⟩

/-- A value is passed on. -/
@[simp] theorem Except.ok_bind {ε α β : Type} (a : α) (f : α → Except ε β) :
    (Except.ok a >>= f) = f a := rfl

/-- A sequence of outcomes is a value if each of them is. -/
theorem Except.bind_eq_ok {ε α β : Type} {x : Except ε α} {f : α → Except ε β} {b : β} :
    x >>= f = .ok b ↔ ∃ a, x = .ok a ∧ f a = .ok b := by
  cases x with
  | ok a => exact ⟨fun h => ⟨a, rfl, h⟩, fun ⟨_, ha, h⟩ => Except.ok.inj ha ▸ h⟩
  | error e => exact ⟨fun h => (by cases h), fun ⟨_, ha, _⟩ => (by cases ha)⟩

/-- A list of outcomes is an outcome if each of them is. -/
theorem Except.mapM_eq_ok {ε α β : Type} {f : α → Except ε β} {l : List α} {l' : List β} :
    l.mapM f = .ok l' ↔ List.Forall₂ (fun a b => f a = .ok b) l l' := by
  induction l generalizing l' with
  | nil => cases l' <;> simp [pure, Except.pure]
  | cons a l ih =>
    rw [List.mapM_cons]
    cases hfa : f a with
    | error e => cases l' <;> simp [bind, Except.bind, hfa]
    | ok b =>
      cases hl : l.mapM f with
      | error e => cases l' <;> simp [bind, Except.bind, ← ih, hl, hfa]
      | ok bs => cases l' <;> simp [bind, Except.bind, pure, Except.pure, ← ih, hl, hfa]

/-- A list of outcomes that return is an outcome that returns. -/
theorem Except.exists_mapM_eq_ok {ε α β : Type} {f : α → Except ε β} {l : List α}
    (h : ∀ a ∈ l, ∃ b, f a = .ok b) : ∃ l', l.mapM f = .ok l' := by
  induction l with
  | nil => exact ⟨[], rfl⟩
  | cons a l ih =>
    obtain ⟨b, hb⟩ := h a List.mem_cons_self
    obtain ⟨l', hl'⟩ := ih fun x hx => h x (List.mem_cons_of_mem _ hx)
    exact ⟨b :: l', Except.mapM_eq_ok.mpr (.cons hb (Except.mapM_eq_ok.mp hl'))⟩

/-- An element of the right list is related to an element of the left one. -/
theorem List.Forall₂.exists_left {α β : Type} {R : α → β → Prop} {l : List α} {l' : List β}
    (h : List.Forall₂ R l l') {b : β} (hb : b ∈ l') : ∃ a ∈ l, R a b := by
  induction h with
  | nil => cases hb
  | @cons a b' l l' hab _ ih =>
    rcases List.mem_cons.mp hb with rfl | hb
    · exact ⟨a, List.mem_cons_self, hab⟩
    · obtain ⟨a', ha', hR⟩ := ih hb
      exact ⟨a', List.mem_cons_of_mem _ ha', hR⟩

/-- An element of the left list is related to an element of the right one. -/
theorem List.Forall₂.exists_right {α β : Type} {R : α → β → Prop} {l : List α} {l' : List β}
    (h : List.Forall₂ R l l') {a : α} (ha : a ∈ l) : ∃ b ∈ l', R a b :=
  h.flip.exists_left ha

/-- Related lists have the same image if related elements do. -/
theorem List.Forall₂.map_eq {α γ : Type} {R : α → α → Prop} {l l' : List α} {f : α → γ}
    (h : List.Forall₂ R l l') (hf : ∀ a b, R a b → f a = f b) : l.map f = l'.map f := by
  induction h with
  | nil => rfl
  | cons hab _ ih => rw [List.map_cons, List.map_cons, hf _ _ hab, ih]

/-- A program over requests `Req` with answers `Ans`, returning an `α` or failing with an
`ε`. -/
inductive Prog (Req : Type) (Ans : Req → Type) (ε α : Type) : Type where
  /-- The program has finished. -/
  | done (r : Except ε α)
  /-- The program issues the request `q` and continues with its answer. -/
  | ask (q : Req) (k : Ans q → Prog Req Ans ε α)

namespace Prog

variable {Req : Type} {Ans : Req → Type} {ε ε' α β σ : Type}

/-- Sequencing: an error ends the sequence. -/
def bind : Prog Req Ans ε α → (α → Prog Req Ans ε β) → Prog Req Ans ε β
  | done (.ok a), f => f a
  | done (.error e), _ => done (.error e)
  | ask q k, f => ask q fun a => (k a).bind f

instance : Monad (Prog Req Ans ε) where
  pure a := done (.ok a)
  bind := bind

instance : LawfulMonad (Prog Req Ans ε) := by
  refine LawfulMonad.mk' _ (fun p => ?_) (fun _ _ => rfl) fun p f g => ?_
  · induction p with
    | done r => cases r <;> rfl
    | ask q k ih => exact congrArg (ask q) (funext ih)
  · induction p with
    | done r => cases r <;> rfl
    | ask q k ih => exact congrArg (ask q) (funext ih)

/-- Finish with an error. -/
def fail (e : ε) : Prog Req Ans ε α := done (.error e)

/-- Finish with the value of an option, or with an error if there is none. -/
def ofOption (e : ε) : Option α → Prog Req Ans ε α
  | some a => done (.ok a)
  | none => done (.error e)

/-- Finish with an error if `c` holds, and continue otherwise. -/
def rejectIf (c : Prop) [Decidable c] (e : ε) : Prog Req Ans ε Unit :=
  if c then done (.error e) else done (.ok ())

/-- Rewrite the error of a program. -/
def mapErr (g : ε → ε') : Prog Req Ans ε α → Prog Req Ans ε' α
  | done r => done (r.mapError g)
  | ask q k => ask q fun a => (k a).mapErr g

/-- Turn the error of a program into a value its continuation can inspect. -/
def attempt : Prog Req Ans ε α → Prog Req Ans ε' (Except ε α)
  | done r => done (.ok r)
  | ask q k => ask q fun a => (k a).attempt

/-- Forget everything about the outcome except whether the program failed. -/
def forget : Prog Req Ans ε α → Prog Req Ans Unit Unit
  | done (.ok _) => done (.ok ())
  | done (.error _) => done (.error ())
  | ask q k => ask q fun a => (k a).forget

/-! ## Running alone -/

/-- `p.Exec E s r s'`: run alone from `s`, the environment answering each request as the
relation `E` allows, the program can finish with outcome `r` in the state `s'`. -/
def Exec (E : (q : Req) → σ → Ans q → σ → Prop) :
    Prog Req Ans ε α → σ → Except ε α → σ → Prop
  | done r', s, r, s' => r = r' ∧ s' = s
  | ask q k, s, r, s' => ∃ a s₁, E q s a s₁ ∧ (k a).Exec E s₁ r s'

/-- The run of a program against an environment that answers by a function. -/
def eval (h : (q : Req) → σ → Ans q × σ) : Prog Req Ans ε α → σ → Except ε α × σ
  | done r, s => (r, s)
  | ask q k, s => (k (h q s).1).eval h (h q s).2

/-- Whether the program has finished without an error. -/
def returned : Prog Req Ans ε α → Bool
  | done (.ok _) => true
  | _ => false

/-- A program that has finished without an error. -/
theorem eq_done_of_returned {p : Prog Req Ans ε Unit} (h : p.returned = true) :
    p = done (.ok ()) := by
  match p, h with
  | done (.ok _), _ => rfl

/-- Every request the program can issue, whatever the answers, satisfies `φ`. -/
def All (φ : Req → Prop) : Prog Req Ans ε α → Prop
  | done _ => True
  | ask q k => φ q ∧ ∀ a, (k a).All φ

section Exec

variable {E : (q : Req) → σ → Ans q → σ → Prop} {p : Prog Req Ans ε α}
  {f : α → Prog Req Ans ε β} {s s' : σ}

/-- A finished program stays where it is. -/
@[simp] theorem exec_done {r r' : Except ε α} :
    (done r' : Prog Req Ans ε α).Exec E s r s' ↔ r = r' ∧ s' = s := Iff.rfl

/-- A request is answered, and the continuation runs on. -/
@[simp] theorem exec_ask {q : Req} {k : Ans q → Prog Req Ans ε α} {r : Except ε α} :
    (ask q k).Exec E s r s' ↔ ∃ a s₁, E q s a s₁ ∧ (k a).Exec E s₁ r s' := Iff.rfl

/-- Returning a value leaves the state as it is. -/
@[simp] theorem exec_pure {a : α} {r : Except ε α} :
    (pure a : Prog Req Ans ε α).Exec E s r s' ↔ r = .ok a ∧ s' = s := Iff.rfl

/-- Failing leaves the state as it is. -/
@[simp] theorem exec_fail {e : ε} {r : Except ε α} :
    (fail e : Prog Req Ans ε α).Exec E s r s' ↔ r = .error e ∧ s' = s := Iff.rfl

/-- The two outcomes of `ofOption`. -/
@[simp] theorem exec_ofOption {e : ε} {o : Option α} {r : Except ε α} :
    (ofOption e o : Prog Req Ans ε α).Exec E s r s' ↔
      ((∃ a, o = some a ∧ r = .ok a) ∨ (o = none ∧ r = .error e)) ∧ s' = s := by
  cases o <;> simp [ofOption]

/-- The two outcomes of `rejectIf`. -/
@[simp] theorem exec_rejectIf {c : Prop} [Decidable c] {e : ε} {r : Except ε Unit} :
    (rejectIf c e : Prog Req Ans ε Unit).Exec E s r s' ↔
      ((¬ c ∧ r = .ok ()) ∨ (c ∧ r = .error e)) ∧ s' = s := by
  by_cases h : c <;> simp [rejectIf, h]

/-- **A run of a sequence** either runs the first part to a value and then the second part,
or ends with the first part's error.

**Proof sketch.** Induction on the first part: finished parts are read off the definition of
`bind`, and a request is answered alike on both sides. -/
theorem exec_bind {r : Except ε β} : (p >>= f).Exec E s r s' ↔
    (∃ a s₁, p.Exec E s (.ok a) s₁ ∧ (f a).Exec E s₁ r s') ∨
      ∃ e, r = .error e ∧ p.Exec E s (.error e) s' := by
  change (p.bind f).Exec E s r s' ↔ _
  induction p generalizing s with
  | done r₀ =>
    cases r₀ with
    | ok a => simp [bind, and_assoc]
    | error e => simp [bind]
  | ask q k ih =>
    simp only [bind, exec_ask, ih]
    constructor
    · rintro ⟨a, s₁, hE, ⟨b, s₂, hk, hf⟩ | ⟨e, rfl, hk⟩⟩
      · exact .inl ⟨b, s₂, ⟨a, s₁, hE, hk⟩, hf⟩
      · exact .inr ⟨e, rfl, a, s₁, hE, hk⟩
    · rintro (⟨b, s₂, ⟨a, s₁, hE, hk⟩, hf⟩ | ⟨e, rfl, a, s₁, hE, hk⟩)
      · exact ⟨a, s₁, hE, .inl ⟨b, s₂, hk, hf⟩⟩
      · exact ⟨a, s₁, hE, .inr ⟨e, rfl, hk⟩⟩

/-- A sequence that succeeds runs each part to a value. -/
theorem exec_bind_ok {b : β} : (p >>= f).Exec E s (.ok b) s' ↔
    ∃ a s₁, p.Exec E s (.ok a) s₁ ∧ (f a).Exec E s₁ (.ok b) s' := by
  simp [exec_bind]

/-- Mapping the value of a program. -/
theorem exec_map {g : α → β} {r : Except ε β} :
    (g <$> p).Exec E s r s' ↔ ∃ r', p.Exec E s r' s' ∧ r = r'.map g := by
  change (p >>= fun a => pure (g a)).Exec E s r s' ↔ _
  rw [exec_bind]
  constructor
  · rintro (⟨a, s₁, hp, rfl, rfl⟩ | ⟨e, rfl, hp⟩)
    · exact ⟨_, hp, rfl⟩
    · exact ⟨_, hp, rfl⟩
  · rintro ⟨r', hp, rfl⟩
    cases r' with
    | ok a => exact .inl ⟨a, s', hp, rfl, rfl⟩
    | error e => exact .inr ⟨e, rfl, hp⟩

/-- Rewriting errors does not change the run. -/
theorem exec_mapErr {g : ε → ε'} {r : Except ε' α} :
    (p.mapErr g).Exec E s r s' ↔ ∃ r', p.Exec E s r' s' ∧ r = r'.mapError g := by
  induction p generalizing s with
  | done r₀ => simp [mapErr, and_assoc, and_comm]
  | ask q k ih =>
    simp only [mapErr, exec_ask, ih]
    constructor
    · rintro ⟨a, s₁, hE, r', hk, rfl⟩; exact ⟨r', ⟨a, s₁, hE, hk⟩, rfl⟩
    · rintro ⟨r', ⟨a, s₁, hE, hk⟩, rfl⟩; exact ⟨a, s₁, hE, r', hk, rfl⟩

/-- A success of the rewritten program is a success of the program. -/
@[simp] theorem exec_mapErr_ok {g : ε → ε'} {a : α} :
    (p.mapErr g).Exec E s (.ok a) s' ↔ p.Exec E s (.ok a) s' := by
  rw [exec_mapErr]
  constructor
  · rintro ⟨r', hp, h⟩
    cases r' with
    | ok b => cases h; exact hp
    | error e => cases h
  · intro hp; exact ⟨_, hp, rfl⟩

/-- Inspecting an outcome does not change the run. -/
theorem exec_attempt {r : Except ε' (Except ε α)} :
    (p.attempt : Prog Req Ans ε' (Except ε α)).Exec E s r s' ↔
      ∃ r', p.Exec E s r' s' ∧ r = .ok r' := by
  induction p generalizing s with
  | done r₀ => simp [attempt, and_assoc, and_comm]
  | ask q k ih =>
    simp only [attempt, exec_ask, ih]
    constructor
    · rintro ⟨a, s₁, hE, r', hk, rfl⟩; exact ⟨r', ⟨a, s₁, hE, hk⟩, rfl⟩
    · rintro ⟨r', ⟨a, s₁, hE, hk⟩, rfl⟩; exact ⟨a, s₁, hE, r', hk, rfl⟩

/-- **The frame rule of runs.** A reflexive and transitive relation kept by every request the
program can issue relates the ends of every run. -/
theorem Exec.rel {φ : Req → Prop} {R : σ → σ → Prop} (hrefl : ∀ s, R s s)
    (htrans : ∀ {a b c}, R a b → R b c → R a c)
    (hE : ∀ q s a s', φ q → E q s a s' → R s s') (hp : p.All φ) {r : Except ε α}
    (h : p.Exec E s r s') : R s s' := by
  induction p generalizing s with
  | done r₀ => rw [h.2]; exact hrefl s
  | ask q k ih =>
    obtain ⟨a, s₁, hq, hk⟩ := h
    exact htrans (hE q s a s₁ hp.1 hq) (ih a (hp.2 a) hk)

/-- A program whose requests all leave the state as it is leaves the state as it is. -/
theorem Exec.eq_of_all {φ : Req → Prop} (hE : ∀ q s a s', φ q → E q s a s' → s' = s)
    (hp : p.All φ) {r : Except ε α} (h : p.Exec E s r s') : s' = s :=
  h.rel (R := fun s s' => s' = s) (fun _ => rfl) (fun h h' => h'.trans h) hE hp

/-- **The rule of determinism.** If every request the program can issue has one answer, the
program has one run. -/
theorem Exec.unique {φ : Req → Prop}
    (hE : ∀ q s a s₁ b s₂, φ q → E q s a s₁ → E q s b s₂ → a = b ∧ s₁ = s₂) (hp : p.All φ)
    {r₁ r₂ : Except ε α} {s₁ s₂ : σ} (h₁ : p.Exec E s r₁ s₁) (h₂ : p.Exec E s r₂ s₂) :
    r₁ = r₂ ∧ s₁ = s₂ := by
  induction p generalizing s with
  | done r₀ =>
    obtain ⟨rfl, rfl⟩ := h₁
    obtain ⟨rfl, rfl⟩ := h₂
    exact ⟨rfl, rfl⟩
  | ask q k ih =>
    obtain ⟨a, t₁, hq₁, hk₁⟩ := h₁
    obtain ⟨b, t₂, hq₂, hk₂⟩ := h₂
    obtain ⟨rfl, rfl⟩ := hE q s a t₁ b t₂ hp.1 hq₁ hq₂
    exact ih a (hp.2 a) hk₁ hk₂

/-- **The rule of change of state.** A change that commutes with every request the program can
issue takes runs to runs. -/
theorem Exec.map {φ : Req → Prop} {g : σ → σ}
    (hE : ∀ q s a s', φ q → E q s a s' → E q (g s) a (g s')) (hp : p.All φ) {r : Except ε α}
    (h : p.Exec E s r s') : p.Exec E (g s) r (g s') := by
  induction p generalizing s with
  | done r₀ =>
    obtain ⟨rfl, rfl⟩ := h
    exact ⟨rfl, rfl⟩
  | ask q k ih =>
    obtain ⟨a, s₁, hq, hk⟩ := h
    exact ⟨a, g s₁, hE q s a s₁ hp.1 hq, ih a (hp.2 a) hk⟩

/-- A run allowed by one environment is allowed by every weaker one. -/
theorem Exec.mono {E' : (q : Req) → σ → Ans q → σ → Prop}
    (hE : ∀ q s a s', E q s a s' → E' q s a s') {r : Except ε α}
    (h : p.Exec E s r s') : p.Exec E' s r s' := by
  induction p generalizing s with
  | done r₀ => exact h
  | ask q k ih =>
    obtain ⟨a, s₁, hq, hk⟩ := h
    exact ⟨a, s₁, hE q s a s₁ hq, ih a hk⟩

end Exec

/-! ## Deterministic environments -/

section Eval

variable {h : (q : Req) → σ → Ans q × σ} {p : Prog Req Ans ε α} {s : σ}

/-- **The run by a function is the only run** against an environment that answers by it. -/
theorem exec_iff_eval {E : (q : Req) → σ → Ans q → σ → Prop}
    (hE : ∀ q s a s', E q s a s' ↔ (a, s') = h q s) {r : Except ε α} {s' : σ} :
    p.Exec E s r s' ↔ (r, s') = p.eval h s := by
  induction p generalizing s with
  | done r₀ => simp [eval, Prod.ext_iff]
  | ask q k ih =>
    simp only [exec_ask, eval, hE, ih]
    constructor
    · rintro ⟨a, s₁, heq, hk⟩
      rw [← heq]; exact hk
    · intro hk; exact ⟨_, _, rfl, hk⟩

/-- The run by a function is a run. -/
theorem exec_eval {E : (q : Req) → σ → Ans q → σ → Prop}
    (hE : ∀ q s, E q s (h q s).1 (h q s).2) : p.Exec E s (p.eval h s).1 (p.eval h s).2 := by
  induction p generalizing s with
  | done r₀ => exact ⟨rfl, rfl⟩
  | ask q k ih => exact ⟨_, _, hE q s, ih _⟩

end Eval

/-! ## The requests a program can issue -/

section All

variable {φ ψ : Req → Prop} {p : Prog Req Ans ε α} {f : α → Prog Req Ans ε β}

/-- A finished program issues no request. -/
@[simp] theorem all_done (r : Except ε α) : (done r : Prog Req Ans ε α).All φ := trivial

/-- Returning a value issues no request. -/
@[simp] theorem all_pure (a : α) : (pure a : Prog Req Ans ε α).All φ := trivial

/-- Failing issues no request. -/
@[simp] theorem all_fail (e : ε) : (fail e : Prog Req Ans ε α).All φ := trivial

/-- Reading an option issues no request. -/
@[simp] theorem all_ofOption (e : ε) (o : Option α) :
    (ofOption e o : Prog Req Ans ε α).All φ := by cases o <;> trivial

/-- A check issues no request. -/
@[simp] theorem all_rejectIf (c : Prop) [Decidable c] (e : ε) :
    (rejectIf c e : Prog Req Ans ε Unit).All φ := by unfold rejectIf; split_ifs <;> trivial

/-- The requests of `ask q k` are `q` and those of its continuations. -/
@[simp] theorem all_ask {q : Req} {k : Ans q → Prog Req Ans ε α} :
    (ask q k).All φ ↔ φ q ∧ ∀ a, (k a).All φ := Iff.rfl

/-- Any request satisfies the trivial predicate. -/
theorem all_true (p : Prog Req Ans ε α) : p.All fun _ => True := by
  induction p with
  | done r => trivial
  | ask q k ih => exact ⟨trivial, ih⟩

/-- A sequence issues the requests of its parts. -/
theorem All.bind (hp : p.All φ) (hf : ∀ a, (f a).All φ) : (p >>= f).All φ := by
  change (p.bind f).All φ
  induction p with
  | done r₀ =>
    cases r₀ with
    | ok a => exact hf a
    | error e => trivial
  | ask q k ih => exact ⟨hp.1, fun a => ih a (hp.2 a)⟩

/-- Mapping the value issues no further request. -/
theorem All.map {g : α → β} (hp : p.All φ) : (g <$> p).All φ := hp.bind fun _ => trivial

/-- Rewriting errors issues no further request. -/
theorem All.mapErr {g : ε → ε'} (hp : p.All φ) : (p.mapErr g).All φ := by
  induction p with
  | done r₀ => trivial
  | ask q k ih => exact ⟨hp.1, fun a => ih a (hp.2 a)⟩

/-- Inspecting the outcome issues no further request. -/
theorem All.attempt (hp : p.All φ) : (p.attempt : Prog Req Ans ε' (Except ε α)).All φ := by
  induction p with
  | done r₀ => trivial
  | ask q k ih => exact ⟨hp.1, fun a => ih a (hp.2 a)⟩

/-- A weaker predicate holds of the requests as well. -/
theorem All.mono (hp : p.All φ) (h : ∀ q, φ q → ψ q) : p.All ψ := by
  induction p with
  | done r₀ => trivial
  | ask q k ih => exact ⟨h q hp.1, fun a => ih a (hp.2 a)⟩

end All

end Prog
