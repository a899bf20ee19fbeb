import Klynt.Lib.Wp

set_option relaxedAutoImplicit false
set_option autoImplicit false

/-!
# What a program has learned

Among other programs, a program cannot know the state: it knows the answers it was given.  The
rules below follow a program through its requests and keep, at each point, the answers it has
seen and the kind of requests it has issued so far.  They hold whatever the other programs do.

## Main definitions

* `Prog.Grown` — a history that went on with requests of a given kind.
* `Prog.Learns` — what a program has seen when it returns, and how it got there.

## Main results

* `Prog.Learns.bind`, `Prog.Learns.bind_traced` — a part that learns, and the rest.
* `Run.strong` — an invariant of runs, proved with all shorter runs at hand.
* `Pool.event_of_log` — an event of an interleaving, with the run before it and after it.
-/

namespace Prog

variable {Req : Type} {Ans : Req → Type} {ε ε' α β : Type}

/-- The history `h'` continues `h` with requests `φ` allows. -/
def Grown (φ : Req → Prop) (h h' : List (Event Req Ans)) : Prop :=
  ∃ new, h' = new ++ h ∧ ∀ e ∈ new, φ e.1

section Grown

variable {φ : Req → Prop} {h h' h'' : List (Event Req Ans)}

/-- Nothing was requested. -/
@[simp] theorem Grown.refl (h : List (Event Req Ans)) : Grown φ h h :=
  ⟨[], rfl, fun _ he => nomatch he⟩

/-- A history that went on twice. -/
theorem Grown.trans (h₁ : Grown φ h h') (h₂ : Grown φ h' h'') : Grown φ h h'' := by
  obtain ⟨new, rfl, hnew⟩ := h₁
  obtain ⟨new', rfl, hnew'⟩ := h₂
  refine ⟨new' ++ new, (List.append_assoc _ _ _).symm, fun e he => ?_⟩
  exact (List.mem_append.mp he).elim (hnew' e) (hnew e)

/-- One request. -/
theorem Grown.cons {e : Event Req Ans} (he : φ e.1) : Grown φ h (e :: h) :=
  ⟨[e], rfl, fun _ hx => List.mem_singleton.mp hx ▸ he⟩

/-- What was seen stays seen. -/
theorem Grown.mem (hg : Grown φ h h') {e : Event Req Ans} (he : e ∈ h) : e ∈ h' := by
  obtain ⟨new, rfl, -⟩ := hg
  exact List.mem_append_right _ he

/-- A history that starts empty holds requests of the kind only. -/
theorem Grown.all (hg : Grown φ [] h) : ∀ e ∈ h, φ e.1 := by
  obtain ⟨new, rfl, hnew⟩ := hg
  exact fun e he => hnew e (by simpa using he)

end Grown

/-- Having seen `h`, the program issues a request only where `J` allows it given what it has
seen by then, all its requests are of the kind `φ`, and if it returns a value, `S` holds of the
value and of what the program has seen. -/
def Learns (J : List (Event Req Ans) → Req → Prop) (φ : Req → Prop) (p : Prog Req Ans ε α)
    (h : List (Event Req Ans)) (S : α → List (Event Req Ans) → Prop) : Prop :=
  p.Traced J (fun r h' => Grown φ h h' ∧ ∀ a, r = .ok a → S a h') h

section Learns

variable {J : List (Event Req Ans) → Req → Prop} {φ : Req → Prop} {p : Prog Req Ans ε α}
  {f : α → Prog Req Ans ε β} {h : List (Event Req Ans)} {S S' : α → List (Event Req Ans) → Prop}

/-- A finished program. -/
theorem learns_done (r : Except ε α) :
    (done r : Prog Req Ans ε α).Learns J φ h fun a h' => h' = h ∧ r = .ok a :=
  wp_done.mpr ⟨.refl h, fun _ ha => ⟨rfl, ha⟩⟩

/-- Returning a value. -/
theorem learns_pure (a : α) :
    (pure a : Prog Req Ans ε α).Learns J φ h fun b h' => h' = h ∧ b = a :=
  wp_done.mpr ⟨.refl h, fun _ hb => ⟨rfl, (Except.ok.inj hb).symm⟩⟩

/-- Reading an option. -/
theorem learns_ofOption (e : ε) (o : Option α) :
    (ofOption e o : Prog Req Ans ε α).Learns J φ h fun a h' => h' = h ∧ o = some a := by
  refine wp_ofOption.mpr ⟨fun a ha => ⟨.refl h, ?_⟩, fun _ => ⟨.refl h, fun _ hb => nomatch hb⟩⟩
  rintro b hb
  exact ⟨rfl, ha.trans (congrArg some (Except.ok.inj hb))⟩

/-- A check. -/
theorem learns_rejectIf (c : Prop) [Decidable c] (e : ε) :
    (rejectIf c e : Prog Req Ans ε Unit).Learns J φ h fun _ h' => h' = h ∧ ¬ c :=
  wp_rejectIf.mpr ⟨fun hc => ⟨.refl h, fun _ _ => ⟨rfl, hc⟩⟩,
    fun _ => ⟨.refl h, fun _ hb => nomatch hb⟩⟩

/-- **A request**: its answer is seen. -/
theorem learns_ask {q : Req} {g : Ans q → Except ε α} (hJ : J h q) (hφ : φ q) :
    (ask q fun a => done (g a)).Learns J φ h
      fun b h' => ∃ a, g a = .ok b ∧ h' = ⟨q, a⟩ :: h := by
  refine wp_ask.mpr ⟨hJ, ?_⟩
  rintro a _ rfl
  exact wp_done.mpr ⟨.cons hφ, fun b hb => ⟨a, hb, rfl⟩⟩

/-- Weakening what was learned. -/
theorem Learns.mono (hp : p.Learns J φ h S)
    (hS : ∀ a h', Grown φ h h' → S a h' → S' a h') : p.Learns J φ h S' :=
  wp.mono hp fun _ h' hr => ⟨hr.1, fun a ha => hS a h' hr.1 (hr.2 a ha)⟩

/-- Rewriting errors. -/
theorem Learns.mapErr {g : ε → ε'} (hp : p.Learns J φ h S) : (p.mapErr g).Learns J φ h S := by
  refine wp_mapErr.mpr (wp.mono hp ?_)
  rintro r h' ⟨hg, hr⟩
  exact ⟨hg, fun a ha => hr a (Except.mapError_eq_ok.mp ha)⟩

/-- **A part that learns, and the rest**: what was learned is known to the rest. -/
theorem Learns.bind {S' : β → List (Event Req Ans) → Prop} (hp : p.Learns J φ h S)
    (hf : ∀ a h', Grown φ h h' → S a h' → (f a).Learns J φ h' S') :
    (p >>= f).Learns J φ h S' := by
  refine wp_bind.mpr (wp.mono hp ?_)
  rintro r h' ⟨hg, hr⟩
  cases r with
  | error e => exact ⟨hg, fun _ hb => nomatch hb⟩
  | ok a => exact wp.mono (hf a h' hg (hr a rfl)) fun _ _ hs => ⟨hg.trans hs.1, hs.2⟩

/-- A part that learns, and a rest whose outcome does not matter. -/
theorem Learns.bind_traced (hp : p.Learns J φ h S)
    (hf : ∀ a h', Grown φ h h' → S a h' → (f a).Traced J (fun _ _ => True) h') :
    (p >>= f).Traced J (fun _ _ => True) h :=
  Prog.wp.bind_guarded hp fun a h' hr => hf a h' hr.1 (hr.2 a rfl)

end Learns

end Prog

/-- **Strong induction on runs**: what a run satisfies if every shorter run does. -/
theorem Run.strong {σ ℓ : Type} {init : σ → Prop} {step : σ → ℓ → σ → Prop}
    {I : List (σ × ℓ) → σ → Prop}
    (hI : ∀ tr s, Run init step tr s →
      (∀ older m, older.length < tr.length → Run init step older m → I older m) → I tr s)
    {tr : List (σ × ℓ)} {s : σ} (h : Run init step tr s) : I tr s := by
  suffices hall : ∀ n tr s, tr.length = n → Run init step tr s → I tr s from hall _ tr s rfl h
  intro n
  induction n using Nat.strongRecOn with
  | ind n ih =>
    rintro tr s rfl hrun
    exact hI tr s hrun fun older m hlt hold => ih older.length hlt older m rfl hold

namespace Pool

variable {ι Req : Type} {Ans : Req → Type} {ε α σ : Type} [DecidableEq ι]
  {E : (q : Req) → σ → Ans q → σ → Prop} {T : σ → σ → Prop}
  {init : Pool ι Req Ans ε α σ → Prop} {P : Pool ι Req Ans ε α σ}
  {tr : List (Pool ι Req Ans ε α σ × Label ι Req Ans)}

/-- **An event of an interleaving** was answered by the state of that moment, after an older
part of the run and before the rest of it. -/
theorem event_of_log (hr : Run init (Step E T) tr P) {i : ι} {e : Prog.Event Req Ans}
    (he : (i, e) ∈ log tr) :
    ∃ newer Q older m, tr = newer ++ (Q, some (i, e)) :: older ∧ Run init (Step E T) older Q ∧
      E e.1 Q.world e.2 m.world ∧ Run (· = m) (Step E T) newer P := by
  obtain ⟨Q, hQ⟩ := mem_log.mp he
  obtain ⟨newer, older, m, htr, hold, hstep, hnew⟩ := hr.of_mem hQ
  refine ⟨newer, Q, older, m, htr, hold, ?_, hnew⟩
  cases hstep with
  | run hi hE => exact hE

/-- One more turn of a schedule is a step. -/
theorem step_schedule {h : (q : Req) → σ → Ans q × σ} (hE : ∀ q s, E q s (h q s).1 (h q s).2)
    {i : ι} {q : Req} {k : Ans q → Prog Req Ans ε α} (hi : P.threads i = .ask q k) :
    Step E T P (some (i, ⟨q, (h q P.world).1⟩)) (schedule h [i] P tr).2 := by
  simp only [schedule, hi]
  exact .run hi (hE q P.world)

end Pool
