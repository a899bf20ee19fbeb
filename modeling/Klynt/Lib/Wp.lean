import Klynt.Lib.Pool

set_option relaxedAutoImplicit false
set_option autoImplicit false

/-!
# Weakest preconditions of programs

One recursion over a program serves two readings.  With the state of the world as its state
it is the weakest precondition of a run alone; with the program's own history as its state it
says what the program has seen when it issues a request, which is what an interleaving needs.

## Main definitions

* `Prog.wp` — every request is issued where `A` allows, and every outcome satisfies `Q`.
* `Prog.Ensures` — the outcomes of a run alone.
* `Prog.Reads` — a run alone that leaves the state as it is.
* `Prog.Writes` — a run alone that leaves the state as it is if it fails.
* `Prog.Guarded` — a run alone that issues requests only where a guard allows.
* `Prog.Traced` — the requests a program issues, given what it has seen.
* `Pool.mine` — the part of a log that belongs to one thread.

## Main results

* `Prog.wp_bind`, `Prog.wp_mapErr`, `Prog.wp_attempt` — the rules of the constructs.
* `Prog.Ensures.of_exec`, `Prog.ensures_iff` — runs alone.
* `Pool.traced_of_run`, `Pool.justified_of_run` — every thread of every interleaving keeps to
  its trace.
-/

namespace Prog

variable {Req : Type} {Ans : Req → Type} {ε ε' α β σ : Type}

/-- `p.wp A E Q s`: run from `s` against an environment that answers as `E` says, the program
issues requests only in states `A` allows, and finishes only as `Q` allows. -/
def wp (A : Req → σ → Prop) (E : (q : Req) → σ → Ans q → σ → Prop)
    (Q : Except ε α → σ → Prop) : Prog Req Ans ε α → σ → Prop
  | done r, s => Q r s
  | ask q k, s => A q s ∧ ∀ a s', E q s a s' → (k a).wp A E Q s'

section Rules

variable {A : Req → σ → Prop} {E : (q : Req) → σ → Ans q → σ → Prop} {p : Prog Req Ans ε α}
  {f : α → Prog Req Ans ε β} {s : σ}

/-- A finished program. -/
@[simp] theorem wp_done {Q : Except ε α → σ → Prop} {r : Except ε α} :
    (done r : Prog Req Ans ε α).wp A E Q s ↔ Q r s := Iff.rfl

/-- A request. -/
@[simp] theorem wp_ask {Q : Except ε α → σ → Prop} {q : Req} {k : Ans q → Prog Req Ans ε α} :
    (ask q k).wp A E Q s ↔ A q s ∧ ∀ a s', E q s a s' → (k a).wp A E Q s' := Iff.rfl

/-- Returning a value. -/
@[simp] theorem wp_pure {Q : Except ε α → σ → Prop} {a : α} :
    (pure a : Prog Req Ans ε α).wp A E Q s ↔ Q (.ok a) s := Iff.rfl

/-- Failing. -/
@[simp] theorem wp_fail {Q : Except ε α → σ → Prop} {e : ε} :
    (fail e : Prog Req Ans ε α).wp A E Q s ↔ Q (.error e) s := Iff.rfl

/-- Reading an option. -/
@[simp] theorem wp_ofOption {Q : Except ε α → σ → Prop} {e : ε} {o : Option α} :
    (ofOption e o : Prog Req Ans ε α).wp A E Q s ↔
      (∀ a, o = some a → Q (.ok a) s) ∧ (o = none → Q (.error e) s) := by
  cases o <;> simp [ofOption]

/-- A check. -/
@[simp] theorem wp_rejectIf {Q : Except ε Unit → σ → Prop} {c : Prop} [Decidable c] {e : ε} :
    (rejectIf c e : Prog Req Ans ε Unit).wp A E Q s ↔
      (¬ c → Q (.ok ()) s) ∧ (c → Q (.error e) s) := by
  by_cases h : c <;> simp [rejectIf, h]

/-- **A sequence**: the second part runs from where the first part returned. -/
theorem wp_bind {Q : Except ε β → σ → Prop} :
    (p >>= f).wp A E Q s ↔
      p.wp A E (fun r s' => match r with
        | .ok a => (f a).wp A E Q s'
        | .error e => Q (.error e) s') s := by
  change (p.bind f).wp A E Q s ↔ _
  induction p generalizing s with
  | done r => cases r <;> rfl
  | ask q k ih => simp only [bind, wp_ask, ih]

/-- Mapping the value. -/
theorem wp_map {Q : Except ε β → σ → Prop} {g : α → β} :
    (g <$> p).wp A E Q s ↔ p.wp A E (fun r s' => Q (r.map g) s') s := by
  change (p >>= fun a => pure (g a)).wp A E Q s ↔ _
  rw [wp_bind]
  have hQ : (fun (r : Except ε α) (s' : σ) => match r with
      | .ok a => (pure (g a) : Prog Req Ans ε β).wp A E Q s'
      | .error e => Q (.error e) s') = fun r s' => Q (r.map g) s' := by
    funext r s'; cases r <;> rfl
  rw [hQ]

/-- Rewriting errors. -/
theorem wp_mapErr {Q : Except ε' α → σ → Prop} {g : ε → ε'} :
    (p.mapErr g).wp A E Q s ↔ p.wp A E (fun r s' => Q (r.mapError g) s') s := by
  induction p generalizing s with
  | done r => rfl
  | ask q k ih => simp only [mapErr, wp_ask, ih]

/-- Inspecting the outcome. -/
theorem wp_attempt {Q : Except ε' (Except ε α) → σ → Prop} :
    (p.attempt : Prog Req Ans ε' (Except ε α)).wp A E Q s ↔
      p.wp A E (fun r s' => Q (.ok r) s') s := by
  induction p generalizing s with
  | done r => rfl
  | ask q k ih => simp only [attempt, wp_ask, ih]

/-- Forgetting the value. -/
theorem wp_forget {Q : Except Unit Unit → σ → Prop} :
    p.forget.wp A E Q s ↔
      p.wp A E (fun r s' => Q ((r.map fun _ => ()).mapError fun _ => ()) s') s := by
  induction p generalizing s with
  | done r => cases r <;> rfl
  | ask q k ih => simp only [forget, wp_ask, ih]

/-- Weakening what is ensured. -/
theorem wp.mono {Q Q' : Except ε α → σ → Prop} (h : p.wp A E Q s)
    (hQ : ∀ r s', Q r s' → Q' r s') : p.wp A E Q' s := by
  induction p generalizing s with
  | done r => exact hQ _ _ h
  | ask q k ih => exact ⟨h.1, fun a s' hE => ih a (h.2 a s' hE)⟩

end Rules

-- From here on programs are taken apart by the rules only; unfolding a whole use case is slow.
attribute [irreducible] wp

/-! ## Running alone -/

/-- Every outcome of a run alone from `s` satisfies `Q`. -/
abbrev Ensures (E : (q : Req) → σ → Ans q → σ → Prop) (Q : Except ε α → σ → Prop)
    (p : Prog Req Ans ε α) (s : σ) : Prop := p.wp (fun _ _ => True) E Q s

section Ensures

variable {E : (q : Req) → σ → Ans q → σ → Prop} {p : Prog Req Ans ε α}
  {Q : Except ε α → σ → Prop} {s s' : σ}

/-- **Soundness**: what is ensured holds of every run. -/
theorem Ensures.of_exec {r : Except ε α} (h : p.Ensures E Q s) (hp : p.Exec E s r s') :
    Q r s' := by
  induction p generalizing s with
  | done r₀ => obtain ⟨rfl, rfl⟩ := hp; exact wp_done.mp h
  | ask q k ih =>
    obtain ⟨a, s₁, hE, hk⟩ := hp
    exact ih a ((wp_ask.mp h).2 a s₁ hE) hk

/-- What holds of every run is ensured. -/
theorem ensures_iff : p.Ensures E Q s ↔ ∀ r s', p.Exec E s r s' → Q r s' := by
  refine ⟨fun h r s' hp => h.of_exec hp, fun h => ?_⟩
  induction p generalizing s with
  | done r => exact wp_done.mpr (h r s ⟨rfl, rfl⟩)
  | ask q k ih =>
    exact wp_ask.mpr ⟨trivial, fun a s₁ hE => ih a fun r s' hk => h r s' ⟨a, s₁, hE, hk⟩⟩

/-- Two facts about every outcome. -/
theorem Ensures.and {Q' : Except ε α → σ → Prop} (h : p.Ensures E Q s) (h' : p.Ensures E Q' s) :
    p.Ensures E (fun r s' => Q r s' ∧ Q' r s') s :=
  ensures_iff.mpr fun _ _ hp => ⟨h.of_exec hp, h'.of_exec hp⟩

/-- **Two runs** of two programs, from what is ensured of each. -/
theorem Ensures.two_runs {p' : Prog Req Ans ε α} {Q' : Except ε α → σ → Prop}
    {R : Except ε α → Except ε α → Prop} {t : σ} (h : p.Ensures E Q s) (h' : p'.Ensures E Q' t)
    (hR : ∀ r s' r' t', Q r s' → Q' r' t' → R r r') :
    ∀ r r' s' t', p.Exec E s r s' → p'.Exec E t r' t' → R r r' :=
  fun _ _ _ _ hp hp' => hR _ _ _ _ (h.of_exec hp) (h'.of_exec hp')

/-- A single request whose answer is the outcome. -/
theorem ensures_ask {q : Req} {g : Ans q → Except ε α} :
    (ask q fun a => done (g a)).Ensures E Q s ↔ ∀ a s', E q s a s' → Q (g a) s' := by
  rw [Ensures, wp_ask]
  exact ⟨fun h a s' hE => wp_done.mp (h.2 a s' hE),
    fun h => ⟨trivial, fun a s' hE => wp_done.mpr (h a s' hE)⟩⟩

/-- A program all of whose requests keep a reflexive and transitive relation ends in a related
state. -/
theorem ensures_of_all {φ : Req → Prop} {R : σ → σ → Prop} (hrefl : ∀ s, R s s)
    (htrans : ∀ {a b c}, R a b → R b c → R a c) (hE : ∀ q s a s', φ q → E q s a s' → R s s')
    (hp : p.All φ) (hQ : ∀ r s', R s s' → Q r s') : p.Ensures E Q s :=
  ensures_iff.mpr fun r s' h => hQ r s' (h.rel hrefl htrans hE hp)

end Ensures

/-! ## Reading -/

/-- Run from `s`, the program leaves the state as it is, and a value it returns satisfies
`S`. -/
def Reads (E : (q : Req) → σ → Ans q → σ → Prop) (p : Prog Req Ans ε α) (s : σ)
    (S : α → Prop) : Prop :=
  p.Ensures E (fun r s' => s' = s ∧ ∀ a, r = .ok a → S a) s

section Reads

variable {E : (q : Req) → σ → Ans q → σ → Prop} {p : Prog Req Ans ε α}
  {f : α → Prog Req Ans ε β} {s : σ} {S S' : α → Prop}

/-- **Reading first**: if a read fails, nothing has happened; otherwise the rest runs from the
same state. -/
theorem Reads.bind_ensures {Q : Except ε β → σ → Prop} (hp : p.Reads E s S)
    (herr : ∀ e, Q (.error e) s) (hf : ∀ a, S a → (f a).Ensures E Q s) :
    (p >>= f).Ensures E Q s := by
  refine wp_bind.mpr (wp.mono hp ?_)
  rintro r s' ⟨rfl, hr⟩
  cases r with
  | ok a => exact hf a (hr a rfl)
  | error e => exact herr e

/-- Reading and reading on. -/
theorem Reads.bind {S' : β → Prop} (hp : p.Reads E s S) (hf : ∀ a, S a → (f a).Reads E s S') :
    (p >>= f).Reads E s S' :=
  hp.bind_ensures (fun _ => ⟨rfl, fun _ h => by cases h⟩) hf

/-- Rewriting the errors of a read. -/
theorem Reads.mapErr {g : ε → ε'} (hp : p.Reads E s S) : (p.mapErr g).Reads E s S := by
  refine wp_mapErr.mpr (wp.mono hp ?_)
  rintro r s' ⟨rfl, hr⟩
  refine ⟨rfl, fun a ha => ?_⟩
  cases r with
  | ok b => exact hr a (congrArg Except.ok (Except.ok.inj ha))
  | error e => cases ha

/-- Weakening what is known of the value. -/
theorem Reads.mono (hp : p.Reads E s S) (h : ∀ a, S a → S' a) : p.Reads E s S' :=
  wp.mono hp fun _ _ hr => ⟨hr.1, fun a ha => h a (hr.2 a ha)⟩

/-- A finished program. -/
theorem reads_done (r : Except ε α) : (done r : Prog Req Ans ε α).Reads E s (r = .ok ·) :=
  wp_done.mpr ⟨rfl, fun _ h => h⟩

/-- Returning a value. -/
theorem reads_pure (a : α) : (pure a : Prog Req Ans ε α).Reads E s (· = a) :=
  wp_done.mpr ⟨rfl, fun _ h => (Except.ok.inj h).symm⟩

/-- Reading an option. -/
theorem reads_ofOption (e : ε) (o : Option α) :
    (ofOption e o : Prog Req Ans ε α).Reads E s (o = some ·) :=
  wp_ofOption.mpr ⟨fun _ h => ⟨rfl, fun _ hb => h.trans (congrArg some (Except.ok.inj hb))⟩,
    fun _ => ⟨rfl, fun _ h => by cases h⟩⟩

/-- A check. -/
theorem reads_rejectIf (c : Prop) [Decidable c] (e : ε) :
    (rejectIf c e : Prog Req Ans ε Unit).Reads E s (fun _ => ¬ c) :=
  wp_rejectIf.mpr ⟨fun h => ⟨rfl, fun _ _ => h⟩, fun _ => ⟨rfl, fun _ h => by cases h⟩⟩

end Reads

/-! ## Writing -/

/-- Run from `s`, the program fails and leaves the state as it is, or returns as `S` allows. -/
def Writes (E : (q : Req) → σ → Ans q → σ → Prop) (p : Prog Req Ans ε α) (s : σ)
    (S : α → σ → Prop) : Prop :=
  p.Ensures E (fun r s' => match r with
    | .ok a => S a s'
    | .error _ => s' = s) s

section Writes

variable {E : (q : Req) → σ → Ans q → σ → Prop} {p : Prog Req Ans ε α}
  {f : α → Prog Req Ans ε β} {s : σ} {S : α → σ → Prop}

/-- **Writing first**: if a write fails, nothing has happened; otherwise the rest runs from the
state it left. -/
theorem Writes.bind_ensures {Q : Except ε β → σ → Prop} (hp : p.Writes E s S)
    (herr : ∀ e, Q (.error e) s) (hf : ∀ a s', S a s' → (f a).Ensures E Q s') :
    (p >>= f).Ensures E Q s := by
  refine wp_bind.mpr (wp.mono hp fun r s' h => ?_)
  cases r with
  | ok a => exact hf a s' h
  | error e => obtain rfl := h; exact herr e

/-- Rewriting the errors of a write. -/
theorem Writes.mapErr {g : ε → ε'} (hp : p.Writes E s S) : (p.mapErr g).Writes E s S := by
  refine wp_mapErr.mpr (wp.mono hp fun r s' h => ?_)
  cases r with
  | ok a => exact h
  | error e => exact h

/-- Reading and then writing. -/
theorem Reads.bind_writes {S : α → Prop} {S' : β → σ → Prop} (hp : p.Reads E s S)
    (hf : ∀ a, S a → (f a).Writes E s S') : (p >>= f).Writes E s S' :=
  hp.bind_ensures (fun _ => rfl) hf

/-- Weakening what is known of the value and the state. -/
theorem Writes.mono {S' : α → σ → Prop} (hp : p.Writes E s S) (h : ∀ a s', S a s' → S' a s') :
    p.Writes E s S' :=
  wp.mono hp fun r s' hr => match r, hr with
    | .ok a, hr => h a s' hr
    | .error _, hr => hr

end Writes

/-! ## Guarded runs -/

/-- Run alone from `s`, the program issues requests only in states `A` allows. -/
abbrev Guarded (A : Req → σ → Prop) (E : (q : Req) → σ → Ans q → σ → Prop)
    (p : Prog Req Ans ε α) (s : σ) : Prop := p.wp A E (fun _ _ => True) s

section Guarded

variable {A : Req → σ → Prop} {E : (q : Req) → σ → Ans q → σ → Prop} {p : Prog Req Ans ε α}
  {f : α → Prog Req Ans ε β} {s s' : σ}

/-- What every allowed request keeps, a guarded run keeps. -/
theorem wp.rel {Q : Except ε α → σ → Prop} {R : σ → σ → Prop} (hrefl : ∀ s, R s s)
    (htrans : ∀ {a b c}, R a b → R b c → R a c) (hE : ∀ q s a s', A q s → E q s a s' → R s s')
    (hp : p.wp A E Q s) {r : Except ε α} (h : p.Exec E s r s') : R s s' ∧ Q r s' := by
  induction p generalizing s with
  | done r₀ =>
    obtain ⟨rfl, rfl⟩ := h
    exact ⟨hrefl _, wp_done.mp hp⟩
  | ask q k ih =>
    obtain ⟨a, s₁, hq, hk⟩ := h
    obtain ⟨hA, hrest⟩ := wp_ask.mp hp
    have hih := ih a (hrest a s₁ hq) hk
    exact ⟨htrans (hE q s a s₁ hA hq) hih.1, hih.2⟩

/-- Requests that are always allowed need no guard. -/
theorem All.wp {Q : Except ε α → σ → Prop} (hp : p.All fun q => ∀ s, A q s)
    (hQ : p.Ensures E Q s) : p.wp A E Q s := by
  induction p generalizing s with
  | done r => exact wp_done.mpr (wp_done.mp hQ)
  | ask q k ih =>
    exact wp_ask.mpr ⟨hp.1 s, fun a s₁ hE => ih a (hp.2 a) ((wp_ask.mp hQ).2 a s₁ hE)⟩

/-- A program whose requests are always allowed. -/
theorem All.guarded (hp : p.All fun q => ∀ s, A q s) : p.Guarded A E s :=
  hp.wp (ensures_iff.mpr fun _ _ _ => trivial)

/-- A guarded part, and a rest that is guarded from where the part returned. -/
theorem wp.bind_guarded {Q : Except ε α → σ → Prop} (hp : p.wp A E Q s)
    (hf : ∀ a s', Q (.ok a) s' → (f a).Guarded A E s') : (p >>= f).Guarded A E s := by
  refine wp_bind.mpr (wp.mono hp fun r s' hr => ?_)
  cases r with
  | ok a => exact hf a s' hr
  | error e => trivial

/-- Rewriting errors. -/
theorem Guarded.mapErr {g : ε → ε'} (hp : p.Guarded A E s) : (p.mapErr g).Guarded A E s :=
  wp_mapErr.mpr hp

/-- A read of requests that are always allowed, and a guarded rest. -/
theorem Reads.bind_guarded {S : α → Prop} (hp : p.Reads E s S)
    (hall : p.All fun q => ∀ s, A q s) (hf : ∀ a, S a → (f a).Guarded A E s) :
    (p >>= f).Guarded A E s := by
  refine (hall.wp hp).bind_guarded ?_
  rintro a s' ⟨rfl, ha⟩
  exact hf a (ha a rfl)

end Guarded

/-! ## Histories -/

/-- Having seen the history `h`, the program issues a request only where `J` allows it given
its history at that moment, and finishes only as `Q` allows, whatever the answers. -/
abbrev Traced (J : List (Event Req Ans) → Req → Prop)
    (Q : Except ε α → List (Event Req Ans) → Prop) (p : Prog Req Ans ε α)
    (h : List (Event Req Ans)) : Prop :=
  p.wp (fun q h => J h q) (fun q h a h' => h' = ⟨q, a⟩ :: h) Q h

end Prog

namespace Pool

variable {ι Req : Type} {Ans : Req → Type} {ε α σ : Type} [DecidableEq ι]
  {E : (q : Req) → σ → Ans q → σ → Prop} {T : σ → σ → Prop}
  {init : Pool ι Req Ans ε α σ → Prop} {P : Pool ι Req Ans ε α σ}
  {tr : List (Pool ι Req Ans ε α σ × Label ι Req Ans)}

/-- The events of one thread. -/
def mine (i : ι) (log : List (ι × Prog.Event Req Ans)) : List (Prog.Event Req Ans) :=
  (log.filter (·.1 = i)).map (·.2)

/-- The empty log. -/
@[simp] theorem mine_nil (i : ι) : mine i ([] : List (ι × Prog.Event Req Ans)) = [] := rfl

/-- A thread's own event. -/
@[simp] theorem mine_cons_self (i : ι) (e : Prog.Event Req Ans)
    (log : List (ι × Prog.Event Req Ans)) : mine i ((i, e) :: log) = e :: mine i log := by
  simp [mine]

/-- Another thread's event. -/
theorem mine_cons_of_ne {i j : ι} (h : j ≠ i) (e : Prog.Event Req Ans)
    (log : List (ι × Prog.Event Req Ans)) : mine i ((j, e) :: log) = mine i log := by
  simp [mine, h]

/-- The events of a thread are events of the log. -/
theorem mem_mine {i : ι} {e : Prog.Event Req Ans} {log : List (ι × Prog.Event Req Ans)} :
    e ∈ mine i log ↔ (i, e) ∈ log := by
  simp [mine]

/-- Every event of a log was issued where `J` allowed it, given what its thread had seen. -/
def Justified (J : ι → List (Prog.Event Req Ans) → Req → Prop) :
    List (ι × Prog.Event Req Ans) → Prop
  | [] => True
  | e :: older => J e.1 (mine e.1 older) e.2.1 ∧ Justified J older

/-- **Threads keep to their traces** in every interleaving.

**Proof sketch.** Induction on the run.  A thread's own step extends its history by the event
it took part in, which is what the recursion of `Prog.wp` follows; another thread's step and a
move of the environment change neither the thread nor its history. -/
theorem traced_of_run {J : ι → List (Prog.Event Req Ans) → Req → Prop}
    {Q : ι → Except ε α → List (Prog.Event Req Ans) → Prop}
    (h0 : ∀ P, init P → ∀ i, (P.threads i).Traced (J i) (Q i) [])
    (hr : Run init (Step E T) tr P) (i : ι) :
    (P.threads i).Traced (J i) (Q i) (mine i (log tr)) := by
  induction hr with
  | start hi => exact h0 _ hi i
  | snoc _ hstep ih =>
    cases hstep with
    | tick hT => exact ih
    | @run j q k a w hj hE =>
      by_cases hij : j = i
      · subst hij
        rw [hj] at ih
        simpa using (Prog.wp_ask.mp ih).2 a _ rfl
      · simpa [Function.update_of_ne (Ne.symm hij), mine_cons_of_ne hij] using ih

/-- Every event of an interleaving was issued where its thread's trace allowed it. -/
theorem justified_of_run {J : ι → List (Prog.Event Req Ans) → Req → Prop}
    {Q : ι → Except ε α → List (Prog.Event Req Ans) → Prop}
    (h0 : ∀ P, init P → ∀ i, (P.threads i).Traced (J i) (Q i) [])
    (hr : Run init (Step E T) tr P) : Justified J (log tr) := by
  induction hr with
  | start hi => trivial
  | snoc hrun hstep ih =>
    cases hstep with
    | tick hT => exact ih
    | @run j q k a w hj hE =>
      have htr := traced_of_run h0 hrun j
      rw [hj] at htr
      exact ⟨(Prog.wp_ask.mp htr).1, ih⟩

/-- An event of a justified log, with the history its thread had seen. -/
theorem Justified.of_mem {J : ι → List (Prog.Event Req Ans) → Req → Prop}
    {log : List (ι × Prog.Event Req Ans)} (h : Justified J log)
    {e : ι × Prog.Event Req Ans} (he : e ∈ log) :
    ∃ newer older, log = newer ++ e :: older ∧ J e.1 (mine e.1 older) e.2.1 := by
  induction log with
  | nil => cases he
  | cons x older ih =>
    rcases List.mem_cons.mp he with rfl | he
    · exact ⟨[], older, rfl, h.1⟩
    · obtain ⟨newer, older', rfl, hJ⟩ := ih h.2 he
      exact ⟨x :: newer, older', rfl, hJ⟩

/-- **Requests issued once**: if a thread issues requests of a kind only while it has issued none of
them, then at most one of them is in a justified log. -/
theorem Justified.once {J : ι → List (Prog.Event Req Ans) → Req → Prop} {φ : Req → Prop} {i : ι}
    (hJ : ∀ h q, J i h q → φ q → ∀ e ∈ h, ¬ φ e.1) {newer older : List (ι × Prog.Event Req Ans)}
    {e : Prog.Event Req Ans} (h : Justified J (newer ++ (i, e) :: older)) (he : φ e.1) :
    ∀ x, x ∈ newer ∨ x ∈ older → x.1 = i → ¬ φ x.2.1 := by
  induction newer with
  | nil =>
    rintro ⟨j, e'⟩ (hx | hx) rfl
    · cases hx
    · exact hJ _ _ h.1 he e' (mem_mine.mpr hx)
  | cons y newer ih =>
    rintro x (hx | hx) hxi
    · rcases List.mem_cons.mp hx with rfl | hx
      · -- the newest request would be the second one
        intro hφ
        have hmem : e ∈ mine x.1 (newer ++ (i, e) :: older) := by
          rw [hxi]
          exact mem_mine.mpr (List.mem_append_right _ List.mem_cons_self)
        exact hJ _ _ (hxi ▸ h.1) hφ e (hxi ▸ hmem) he
      · exact ih h.2 x (.inl hx) hxi
    · exact ih h.2 x (.inr hx) hxi

end Pool
