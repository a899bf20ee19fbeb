import Mathlib.Algebra.BigOperators.Group.Finset.Piecewise
import Mathlib.Data.Fintype.Basic
import Klynt.Lib.Transactional

set_option relaxedAutoImplicit false
set_option autoImplicit false

/-!
# Concurrent transactions

The connections of several programs to one store under the isolation level `READ COMMITTED`: a
statement sees what is committed when it is run, and what its own transaction has written.

## Main definitions

* `TxRules` — what statements do to what a transaction has written.
* `ReadCommitted` — what is committed, and the open transactions.
* `ReadCommitted.Env`, `ReadCommitted.answer` — how the connections answer.
* `ReadCommitted.total` — a measure of everything that is written, committed or not.

## Main results

* `ReadCommitted.Env.total_le` — only a statement adds to the measure, and only what it writes.

## Implementation notes

A statement waits for transactions that have written a conflicting row.  A request whose answer is
lost may have had its effect; a request that fails leaves its transaction as it is, aborted, or
ended.
-/

/-- What statements do: `seen` is what a transaction sees of a store, and what is committed with
it. -/
structure TxRules {Stmt : Type} (Err : Type) (Res : Stmt → Type) (σ δ : Type) where
  /-- Nothing is written. -/
  nothing : δ
  /-- A store with what is written. -/
  seen : σ → δ → σ
  /-- What a statement returns, and what is written after it. -/
  exec : (st : Stmt) → σ → δ → Except Err (Res st × δ)
  /-- Whether a statement waits for another transaction, for what that has written. -/
  waits : Stmt → δ → Bool

/-- The connections to a store. -/
structure ReadCommitted (ι σ δ : Type) where
  /-- What is committed. -/
  committed : σ
  /-- The open transactions, with what they have written unless they are aborted. -/
  tx : ι → Option (Option δ)

/-- The answer of a request that fails. -/
def TxAns.failed {Stmt Err : Type} {Res : Stmt → Type} (e : Err) :
    (q : TxReq Stmt) → TxAns Err Res q
  | .run _ => .error e
  | .begin | .commit | .rollback => .error e

/-- A program whose requests carry the name of its connection. -/
def Prog.on {ι Req : Type} {Ans : Req → Type} {ε α : Type} (i : ι) :
    Prog Req Ans ε α → Prog (ι × Req) (fun q => Ans q.2) ε α
  | .done r => .done r
  | .ask q k => .ask (i, q) fun a => (k a).on i

namespace ReadCommitted

variable {ι σ δ Stmt Err : Type} {Res : Stmt → Type} [DecidableEq ι]
  (rules : TxRules Err Res σ δ)

/-- A transaction is replaced. -/
def set (s : ReadCommitted ι σ δ) (i : ι) (tx : Option (Option δ)) : ReadCommitted ι σ δ :=
  { s with tx := Function.update s.tx i tx }

/-- What is committed once a transaction is. -/
def outcome (s : ReadCommitted ι σ δ) (i : ι) : σ :=
  match s.tx i with
  | some (some own) => rules.seen s.committed own
  | _ => s.committed

/-- A request has its effect. -/
def Succeeds (i : ι) : (q : TxReq Stmt) → ReadCommitted ι σ δ → TxAns Err Res q →
    ReadCommitted ι σ δ → Prop
  | .begin, s, a, s' => a = .ok () ∧ s' = s.set i (some (some rules.nothing))
  | .run st, s, a, s' => ∃ own v own', s.tx i = some (some own) ∧
    (∀ j ≠ i, ∀ other, s.tx j = some (some other) → rules.waits st other = false) ∧
    rules.exec st s.committed own = .ok (v, own') ∧ a = .ok v ∧ s' = s.set i (some (some own'))
  | .commit, s, a, s' => a = .ok () ∧ s' = { s.set i none with committed := s.outcome rules i }
  | .rollback, s, a, s' => a = .ok () ∧ s' = s.set i none

/-- How the connections answer. -/
inductive Env (q : ι × TxReq Stmt) (s : ReadCommitted ι σ δ) :
    TxAns Err Res q.2 → ReadCommitted ι σ δ → Prop
  /-- The request has its effect. -/
  | done {a : TxAns Err Res q.2} {s' : ReadCommitted ι σ δ} (h : Succeeds rules q.1 q.2 s a s') :
      Env q s a s'
  /-- The answer is lost. -/
  | lost {a : TxAns Err Res q.2} {s' : ReadCommitted ι σ δ} (e : Err)
      (h : Succeeds rules q.1 q.2 s a s') : Env q s (TxAns.failed e q.2) s'
  /-- The request fails. -/
  | failed {tx : Option (Option δ)} (e : Err)
      (h : tx = s.tx q.1 ∨ tx = some none ∨ tx = none) : Env q s (TxAns.failed e q.2) (s.set q.1 tx)

/-! ## Answers without failures -/

/-- The answer to a statement; `refused` is the error of a statement that would wait, or whose
transaction is aborted or not open. -/
def answerRun [Fintype ι] (refused : Err) (i : ι) (st : Stmt) (s : ReadCommitted ι σ δ) :
    Except Err (Res st) × ReadCommitted ι σ δ :=
  match s.tx i with
  | some (some own) =>
    if ∀ j, j ≠ i → ((s.tx j).elim false fun tx => tx.elim false (rules.waits st)) = false then
      match rules.exec st s.committed own with
      | .ok (v, own') => (.ok v, s.set i (some (some own')))
      | .error e => (.error e, s.set i (some none))
    else (.error refused, s)
  | _ => (.error refused, s)

/-- The answers where only statements are refused. -/
def answer [Fintype ι] (refused : Err) :
    (q : ι × TxReq Stmt) → ReadCommitted ι σ δ → TxAns Err Res q.2 × ReadCommitted ι σ δ
  | (i, .begin), s => (.ok (), s.set i (some (some rules.nothing)))
  | (i, .run st), s => answerRun rules refused i st s
  | (i, .commit), s => (.ok (), { s.set i none with committed := s.outcome rules i })
  | (i, .rollback), s => (.ok (), s.set i none)

section Answer

variable {rules} {s : ReadCommitted ι σ δ} {i : ι}

/-- A transaction that is replaced by itself. -/
lemma set_self : s.set i (s.tx i) = s := by
  unfold set
  rw [Function.update_eq_self]

/-- A request fails and leaves its transaction as it is. -/
lemma Env.refused (q : TxReq Stmt) (e : Err) : Env rules (i, q) s (TxAns.failed e q) s := by
  have hfailed : Env rules (i, q) s (TxAns.failed e q) (s.set i (s.tx i)) := .failed e (.inl rfl)
  rwa [set_self] at hfailed

/-- The function answers as the relation allows. -/
lemma env_answer [Fintype ι] (refused : Err) (q : ι × TxReq Stmt) (s : ReadCommitted ι σ δ) :
    Env rules q s (answer rules refused q s).1 (answer rules refused q s).2 := by
  obtain ⟨i, q⟩ := q
  cases q with
  | begin => exact .done ⟨rfl, rfl⟩
  | commit => exact .done ⟨rfl, rfl⟩
  | rollback => exact .done ⟨rfl, rfl⟩
  | run st =>
    change Env rules (i, .run st) s (answerRun rules refused i st s).1 (answerRun rules refused i st s).2
    unfold answerRun
    split
    · rename_i own hown
      split
      · rename_i hfree
        split
        · rename_i v own' hexec
          refine .done ⟨own, v, own', hown, fun j hj other hother => ?_, hexec, rfl, rfl⟩
          have hwaits := hfree j hj
          rwa [hother] at hwaits
        · exact .failed _ (.inr (.inl rfl))
      · exact Env.refused (.run st) refused
    · exact Env.refused (.run st) refused

end Answer

/-! ## What is written -/

section Total

variable [Fintype ι] (measure : σ → ℕ) (size : δ → ℕ)

/-- What a transaction has written. -/
def held (tx : Option (Option δ)) : ℕ := tx.elim 0 fun own => own.elim 0 size

/-- **Everything that is written**, committed or not. -/
def total (s : ReadCommitted ι σ δ) : ℕ := measure s.committed + ∑ i, held size (s.tx i)

variable {rules measure size} {s s' : ReadCommitted ι σ δ} {i : ι}

/-- What is written after a transaction is replaced. -/
lemma total_set (measure : σ → ℕ) (size : δ → ℕ) (s : ReadCommitted ι σ δ) (i : ι)
    (tx : Option (Option δ)) :
    (s.set i tx).total measure size + held size (s.tx i) = s.total measure size + held size tx := by
  have hupdate : (fun j => held size ((s.set i tx).tx j)) =
      Function.update (fun j => held size (s.tx j)) i (held size tx) := by
    funext j
    by_cases hj : j = i
    · subst hj
      simp [set]
    · simp [set, Function.update_of_ne hj]
  have hnew := Finset.sum_update_of_mem (Finset.mem_univ i) (fun j => held size (s.tx j)) (held size tx)
  have hold := Finset.sum_update_of_mem (Finset.mem_univ i) (fun j => held size (s.tx j))
    (held size (s.tx i))
  rw [Function.update_eq_self] at hold
  unfold total
  rw [hupdate, hnew, hold]
  change measure s.committed + _ + _ = _
  omega

/-- Replacing a transaction by one that has written less. -/
lemma total_set_le {tx : Option (Option δ)} (htx : held size tx ≤ held size (s.tx i)) :
    (s.set i tx).total measure size ≤ s.total measure size := by
  have hset := total_set measure size s i tx
  omega

omit [DecidableEq ι] [Fintype ι] in
/-- What is committed with a transaction. -/
lemma measure_outcome
    (hseen : ∀ store own, measure (rules.seen store own) = measure store + size own) :
    measure (s.outcome rules i) = measure s.committed + held size (s.tx i) := by
  unfold outcome
  rcases s.tx i with _ | _ | own
  · rfl
  · rfl
  · exact hseen s.committed own

/-- **Only statements add to what is written.**

**Proof sketch.** A commit moves what a transaction has written to the store; every other request
that is no statement drops it or leaves it. -/
theorem Env.total_le (measure : σ → ℕ) (size : δ → ℕ)
    (hseen : ∀ store own, measure (rules.seen store own) = measure store + size own)
    (hnothing : size rules.nothing = 0) {q : ι × TxReq Stmt} {a : TxAns Err Res q.2}
    (h : Env rules q s a s') :
    s'.total measure size ≤ s.total measure size ∨
      ∃ st own v own', q.2 = .run st ∧ s.tx q.1 = some (some own) ∧
        rules.exec st s.committed own = .ok (v, own') ∧
        s'.total measure size + size own = s.total measure size + size own' := by
  have hsucceeds : ∀ {a : TxAns Err Res q.2}, Succeeds rules q.1 q.2 s a s' →
      s'.total measure size ≤ s.total measure size ∨
        ∃ st own v own', q.2 = .run st ∧ s.tx q.1 = some (some own) ∧
          rules.exec st s.committed own = .ok (v, own') ∧
          s'.total measure size + size own = s.total measure size + size own' := by
    obtain ⟨i, q⟩ := q
    intro a hs
    cases q with
    | begin =>
      obtain ⟨-, rfl⟩ := hs
      refine .inl (total_set_le ?_)
      change size rules.nothing ≤ _
      omega
    | rollback =>
      obtain ⟨-, rfl⟩ := hs
      exact .inl (total_set_le (Nat.zero_le _))
    | run st =>
      obtain ⟨own, v, own', hown, -, hexec, -, rfl⟩ := hs
      have hset := total_set measure size s i (some (some own'))
      rw [hown] at hset
      exact .inr ⟨st, own, v, own', rfl, hown, hexec, hset⟩
    | commit =>
      obtain ⟨-, rfl⟩ := hs
      have hset := total_set measure size s i none
      refine .inl ?_
      have hmeasure := measure_outcome (s := s) (i := i) hseen
      change measure (s.outcome rules i) + ∑ j, held size ((s.set i none).tx j) ≤ _
      change measure s.committed + ∑ j, held size ((s.set i none).tx j) + _ = _ + 0 at hset
      omega
  cases h with
  | done hs => exact hsucceeds hs
  | lost e hs => exact hsucceeds hs
  | failed e htx =>
    refine .inl (total_set_le ?_)
    rcases htx with rfl | rfl | rfl
    · exact le_rfl
    · exact Nat.zero_le _
    · exact Nat.zero_le _

end Total

end ReadCommitted
