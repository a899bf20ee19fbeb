import Klynt.Lib.Prog

set_option relaxedAutoImplicit false
set_option autoImplicit false

/-!
# Transactions, request by request

A program that opens a transaction, runs statements in it and ends it.  The statements act on a
copy of the store; the copy becomes the store when the transaction is committed.  Every request
may fail, whatever it asks for.

## Main definitions

* `Connection` — what is committed, and the transaction that is open.
* `TxReq`, `TxAns` — the requests on a connection, and their answers.
* `Connection.Env` — how a connection answers; `Connection.answer` — the same without failures.
* `orRollback` — run a part of a program, and roll back if it fails.

## Main results

* `Connection.exec_committed` — a program that does not commit leaves the store as it is.
* `Connection.exec_run_ok`, `Connection.exec_commit_ok`, … — the requests that succeed.

## Implementation notes

After a failed request the transaction can be in any condition, since the failure can be one of
the server or one on the way to it or back.  A failed request has published nothing, but for a
commit that was executed and whose answer is lost; whether that can happen is a parameter.  Once a
statement has been refused by the server, the transaction is aborted: to commit it then is not
refused, but publishes nothing.
-/

/-- A connection: what is committed, and the transaction that is open, with its copy of the store
unless it is aborted. -/
structure Connection (σ : Type) where
  /-- The store. -/
  committed : σ
  /-- The open transaction. -/
  tx : Option (Option σ)

/-- Requests on a connection. -/
inductive TxReq (Stmt : Type) where
  /-- Open a transaction. -/
  | begin
  /-- Run a statement in it. -/
  | run (st : Stmt)
  /-- Commit it. -/
  | commit
  /-- Roll it back. -/
  | rollback

/-- The answer to a request. -/
def TxAns {Stmt : Type} (Err : Type) (Res : Stmt → Type) : TxReq Stmt → Type
  | .run st => Except Err (Res st)
  | .begin | .commit | .rollback => Except Err Unit

/-- Programs on a connection. -/
abbrev TxProg {Stmt : Type} (Err : Type) (Res : Stmt → Type) (ε α : Type) : Type :=
  Prog (TxReq Stmt) (TxAns Err Res) ε α

namespace TxProg

variable {Stmt Err : Type} {Res : Stmt → Type} {ε α : Type}

/-- Open a transaction. -/
def begin : TxProg Err Res Err Unit := .ask .begin .done

/-- Run a statement. -/
def run (st : Stmt) : TxProg Err Res Err (Res st) := .ask (.run st) .done

/-- Commit. -/
def commit : TxProg Err Res Err Unit := .ask .commit .done

/-- Roll back. -/
def rollback : TxProg Err Res Err Unit := .ask .rollback .done

/-- Run a part of a program.  If it fails, roll back, whether that succeeds or not, and fail. -/
def orRollback (p : TxProg Err Res ε α) : TxProg Err Res ε α := do
  match ← p.attempt with
  | .ok a => return a
  | .error e => do
    let _ ← rollback.attempt
    .fail e

end TxProg

namespace Connection

variable {σ Stmt Err : Type} {Res : Stmt → Type} {ε α : Type}

/-- What is committed once the open transaction is. -/
def outcome (s : Connection σ) : σ :=
  match s.tx with
  | some (some w) => w
  | _ => s.committed

/-- A failed request. -/
def Fails {β : Type} (s : Connection σ) (a : Except Err β) (s' : Connection σ) : Prop :=
  (∃ e, a = .error e) ∧ s'.committed = s.committed

/-- How a connection answers, where `exec` is what statements do and `lost` says whether the answer
of a commit that is executed may be lost. -/
def Env (lost : Prop) (exec : (st : Stmt) → σ → Except Err (Res st × σ)) :
    (q : TxReq Stmt) → Connection σ → TxAns Err Res q → Connection σ → Prop
  | .begin, s, a, s' => (a = .ok () ∧ s' = { s with tx := some (some s.committed) }) ∨ s.Fails a s'
  | .run st, s, a, s' =>
    (∃ w v w', s.tx = some (some w) ∧ exec st w = .ok (v, w') ∧ a = .ok v ∧
      s' = { s with tx := some (some w') }) ∨ s.Fails a s'
  | .commit, s, a, s' => (a = .ok () ∧ s' = ⟨s.outcome, none⟩) ∨ s.Fails a s' ∨
    lost ∧ (∃ e, a = .error e) ∧ s' = ⟨s.outcome, none⟩
  | .rollback, s, a, s' => (a = .ok () ∧ s' = { s with tx := none }) ∨ s.Fails a s'

/-- The answers of a connection that refuses statements only, and those only where `exec` does;
`aborted` is the error of a statement in a transaction that is aborted or not open. -/
def answer (exec : (st : Stmt) → σ → Except Err (Res st × σ)) (aborted : Err) :
    (q : TxReq Stmt) → Connection σ → TxAns Err Res q × Connection σ
  | .begin, s => (.ok (), { s with tx := some (some s.committed) })
  | .run st, s =>
    match s.tx with
    | some (some w) =>
      match exec st w with
      | .ok (v, w') => (.ok v, { s with tx := some (some w') })
      | .error e => (.error e, { s with tx := some none })
    | _ => (.error aborted, s)
  | .commit, s => (.ok (), ⟨s.outcome, none⟩)
  | .rollback, s => (.ok (), { s with tx := none })

section Rules

variable {lost : Prop} {exec : (st : Stmt) → σ → Except Err (Res st × σ)} {s s' : Connection σ}

/-- The function answers as the relation allows. -/
lemma env_answer (aborted : Err) (q : TxReq Stmt) (s : Connection σ) :
    Env lost exec q s (answer exec aborted q s).1 (answer exec aborted q s).2 := by
  cases q with
  | begin => exact .inl ⟨rfl, rfl⟩
  | run st =>
    obtain ⟨committed, tx⟩ := s
    rcases tx with - | - | w
    · exact .inr ⟨⟨aborted, rfl⟩, rfl⟩
    · exact .inr ⟨⟨aborted, rfl⟩, rfl⟩
    · dsimp only [answer]
      cases hexec : exec st w with
      | ok r => exact .inl ⟨w, r.1, r.2, rfl, hexec, rfl, rfl⟩
      | error e => exact .inr ⟨⟨e, rfl⟩, rfl⟩
  | commit => exact .inl ⟨rfl, rfl⟩
  | rollback => exact .inl ⟨rfl, rfl⟩

/-- Only a commit changes the store. -/
lemma Env.committed {q : TxReq Stmt} {a : TxAns Err Res q} (hq : q ≠ .commit)
    (h : Env lost exec q s a s') : s'.committed = s.committed := by
  cases q with
  | begin =>
    rcases h with ⟨-, rfl⟩ | h
    · rfl
    · exact h.2
  | run st =>
    rcases h with ⟨w, v, w', -, -, -, rfl⟩ | h
    · rfl
    · exact h.2
  | commit => exact absurd rfl hq
  | rollback =>
    rcases h with ⟨-, rfl⟩ | h
    · rfl
    · exact h.2

/-- **A program that does not commit** leaves the store as it is, however it ends. -/
theorem exec_committed {p : TxProg Err Res ε α} (hp : p.All (· ≠ .commit)) {r : Except ε α}
    (h : p.Exec (Env lost exec) s r s') : s'.committed = s.committed := by
  have htrans : ∀ {a b c : Connection σ}, b.committed = a.committed →
      c.committed = b.committed → c.committed = a.committed := fun hab hbc => hbc.trans hab
  exact h.rel (R := fun s s' => s'.committed = s.committed) (fun _ => rfl) htrans
    (fun _ _ _ _ hq hE => Env.committed hq hE) hp

/-- A transaction is opened on the store as it is. -/
lemma exec_begin_ok
    (h : (TxProg.begin : TxProg Err Res Err Unit).Exec (Env lost exec) s (.ok ()) s') :
    s' = { s with tx := some (some s.committed) } := by
  obtain ⟨a, s₁, hE, rfl, rfl⟩ := h
  rcases hE with ⟨-, rfl⟩ | ⟨⟨e, he⟩, -⟩
  · rfl
  · cases he

/-- A statement that succeeds in a transaction does what it does to the copy. -/
lemma exec_run_ok {st : Stmt} {v : Res st} {w : σ} (htx : s.tx = some (some w))
    (h : (TxProg.run st : TxProg Err Res Err (Res st)).Exec (Env lost exec) s (.ok v) s') :
    ∃ w', exec st w = .ok (v, w') ∧ s' = { s with tx := some (some w') } := by
  obtain ⟨a, s₁, hE, rfl, rfl⟩ := h
  rcases hE with ⟨w₀, v₀, w', htx₀, hexec, hv, rfl⟩ | ⟨⟨e, he⟩, -⟩
  · obtain rfl := Option.some.inj (Option.some.inj (htx.symm.trans htx₀))
    obtain rfl := Except.ok.inj hv
    exact ⟨w', hexec, rfl⟩
  · cases he

/-- A transaction that is committed becomes the store. -/
lemma exec_commit_ok {w : σ} (htx : s.tx = some (some w))
    (h : (TxProg.commit : TxProg Err Res Err Unit).Exec (Env lost exec) s (.ok ()) s') :
    s' = ⟨w, none⟩ := by
  obtain ⟨a, s₁, hE, rfl, rfl⟩ := h
  rcases hE with ⟨-, rfl⟩ | ⟨⟨e, he⟩, -⟩ | ⟨-, ⟨e, he⟩, -⟩
  · unfold outcome
    rw [htx]
  · cases he
  · cases he

/-- Where answers may be lost, a commit that succeeds may as well fail with the same effect. -/
lemma exec_commit_lost (e : Err)
    (h : (TxProg.commit : TxProg Err Res Err Unit).Exec (Env True exec) s (.ok ()) s') :
    (TxProg.commit : TxProg Err Res Err Unit).Exec (Env True exec) s (.error e) s' := by
  obtain ⟨a, _, hE, rfl, rfl⟩ := h
  refine ⟨.error e, s', .inr (.inr ⟨trivial, ⟨e, rfl⟩, ?_⟩), rfl, rfl⟩
  rcases hE with ⟨-, hs⟩ | ⟨⟨e', he⟩, -⟩ | ⟨-, ⟨e', he⟩, -⟩
  · exact hs
  · cases he
  · cases he

/-- A commit that fails has published nothing, unless its answer is lost: then the transaction has
become the store. -/
lemma exec_commit_error {e : Err} {w : σ} (htx : s.tx = some (some w))
    (h : (TxProg.commit : TxProg Err Res Err Unit).Exec (Env lost exec) s (.error e) s') :
    s'.committed = s.committed ∨ lost ∧ s'.committed = w := by
  obtain ⟨a, s₁, hE, rfl, rfl⟩ := h
  rcases hE with ⟨he, -⟩ | ⟨-, hsame⟩ | ⟨hlost, -, rfl⟩
  · cases he
  · exact .inl hsame
  · refine .inr ⟨hlost, ?_⟩
    unfold outcome
    rw [htx]

/-- A part that succeeds is not rolled back. -/
lemma exec_orRollback_ok {p : TxProg Err Res ε α} {a : α} :
    p.orRollback.Exec (Env lost exec) s (.ok a) s' ↔ p.Exec (Env lost exec) s (.ok a) s' := by
  unfold TxProg.orRollback
  rw [Prog.exec_bind_ok]
  constructor
  · rintro ⟨r, s₁, hp, hr⟩
    obtain ⟨r', hp, heq⟩ := Prog.exec_attempt.mp hp
    obtain rfl := Except.ok.inj heq
    cases r with
    | ok b =>
      obtain ⟨hab, rfl⟩ := Prog.exec_pure.mp hr
      obtain rfl := Except.ok.inj hab
      exact hp
    | error e =>
      obtain ⟨_, _, -, hfail⟩ := Prog.exec_bind_ok.mp hr
      exact nomatch (Prog.exec_fail.mp hfail).1
  · intro hp
    exact ⟨.ok a, s', Prog.exec_attempt.mpr ⟨_, hp, rfl⟩, rfl, rfl⟩

end Rules

end Connection

namespace TxProg

variable {Stmt Err : Type} {Res : Stmt → Type} {ε α : Type}

/-- To open a transaction is not to commit. -/
lemma all_begin : (begin : TxProg Err Res Err Unit).All (· ≠ .commit) := ⟨nofun, fun _ => trivial⟩

/-- To run a statement is not to commit. -/
lemma all_run (st : Stmt) : (run st : TxProg Err Res Err (Res st)).All (· ≠ .commit) :=
  ⟨nofun, fun _ => trivial⟩

/-- A part that does not commit does not commit when it is rolled back. -/
lemma all_orRollback {p : TxProg Err Res ε α} (hp : p.All (· ≠ .commit)) :
    p.orRollback.All (· ≠ .commit) := by
  refine hp.attempt.bind fun r => ?_
  cases r with
  | ok a => trivial
  | error e =>
    have hrollback : (rollback : TxProg Err Res Err Unit).All (· ≠ .commit) :=
      ⟨nofun, fun _ => trivial⟩
    exact hrollback.attempt.bind fun _ => trivial

end TxProg
