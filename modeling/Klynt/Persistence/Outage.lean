import Klynt.Persistence.World

set_option relaxedAutoImplicit false
set_option autoImplicit false

/-!
# Failures that follow a pattern

Two runs meet the same failures if each failure is decided by what has been asked of the
infrastructure before, and not by the data.  Passwords are verified by a function here; a hash
it cannot read is reported as a failure.

## Main definitions

* `Operation`, `Req.operation` — what a request asks for, without its data.
* `FaultPattern` — which operations fail, given the operations before them.
* `Outage` — how the world answers when failures follow a pattern.
* `Outage.answer` — the same as a function.

## Main results

* `Outage.ensures_select`, `Outage.ensures_verify` — a query and a verification of a password.
-/

namespace Klynt

/-- What a request asks for. -/
inductive Operation where
  /-- The clock. -/
  | clock
  /-- A UUID. -/
  | uuid
  /-- A secure token. -/
  | secureToken
  /-- A `SELECT`. -/
  | query
  /-- A statement outside transactions. -/
  | update
  /-- A transaction. -/
  | transaction
  /-- A cache command. -/
  | redis
  /-- The verification of a password. -/
  | verifyPassword
  /-- The hash of a password. -/
  | hashPassword
  /-- A verification message. -/
  | sendVerification
  /-- A message for a password reset. -/
  | sendPasswordReset
  deriving DecidableEq

/-- The operation of a request. -/
def Req.operation : Req → Operation
  | .clock => .clock
  | .uuid => .uuid
  | .secureToken => .secureToken
  | .query _ => .query
  | .update _ => .update
  | .transaction _ => .transaction
  | .redis _ => .redis
  | .verifyPassword _ _ => .verifyPassword
  | .hashPassword _ => .hashPassword
  | .sendVerification _ _ _ => .sendVerification
  | .sendPasswordReset _ _ _ => .sendPasswordReset

/-- The message with which an operation fails, if it does, given the operations before it, newest
first. -/
abbrev FaultPattern : Type := List Operation → Operation → Option String

/-- Whether a password matches a hash. -/
abbrev Verifier : Type := String → String → Except String Bool

/-- The answer of a request that fails; the clock and the random generator do not fail. -/
def Req.failed (message : String) : (q : Req) → Option (Ans q)
  | .clock | .uuid | .secureToken => none
  | .query _ | .update _ => some (.error (.other message))
  | .transaction _ => some (.error (.internal message))
  | .redis _ => some (.error message)
  | .verifyPassword _ _ | .hashPassword _ => some (.error message)
  | .sendVerification _ _ _ | .sendPasswordReset _ _ _ => some (.error message)

/-- How the world answers a request that does not fail. -/
def Works (verify : Verifier) : (q : Req) → World → Ans q → World → Prop
  | .verifyPassword password hash, w, a, w' => a = verify password hash ∧ w' = w
  | .hashPassword _, w, a, w' => (∃ hash, a = .ok hash) ∧ w' = w
  | .sendVerification _ _ _, w, a, w' => a = .ok () ∧ w' = w
  | .sendPasswordReset _ _ _, w, a, w' => a = .ok () ∧ w' = w
  | q, w, a, w' => Env noFault q w a w'

/-- How the world answers when failures follow a pattern.  The state is the world with the
operations so far, newest first. -/
def Outage (pattern : FaultPattern) (verify : Verifier) (q : Req) (s : World × List Operation)
    (a : Ans q) (s' : World × List Operation) : Prop :=
  s'.2 = q.operation :: s.2 ∧
    match (pattern s.2 q.operation).bind fun message => q.failed message with
    | some failed => a = failed ∧ Env anyFault q s.1 a s'.1
    | none => Works verify q s.1 a s'.1

/-- The answers to requests that do not fail, as a function. -/
def Works.answer (verify : Verifier) : (q : Req) → World → Ans q × World
  | .verifyPassword password hash, w => (verify password hash, w)
  | q, w => w.answer q

/-- The answers when failures follow a pattern, as a function. -/
def Outage.answer (pattern : FaultPattern) (verify : Verifier) (q : Req)
    (s : World × List Operation) : Ans q × World × List Operation :=
  match (pattern s.2 q.operation).bind fun message => q.failed message with
  | some failed => (failed, s.1, q.operation :: s.2)
  | none => ((Works.answer verify q s.1).1, (Works.answer verify q s.1).2, q.operation :: s.2)

/-- The function answers a request that does not fail. -/
theorem works_answer (verify : Verifier) (q : Req) (w : World) :
    Works verify q w (Works.answer verify q w).1 (Works.answer verify q w).2 := by
  cases q with
  | verifyPassword password hash => exact ⟨rfl, rfl⟩
  | hashPassword password => exact ⟨⟨_, rfl⟩, rfl⟩
  | sendVerification e t b => exact ⟨rfl, rfl⟩
  | sendPasswordReset e t b => exact ⟨rfl, rfl⟩
  | clock => exact env_answer noFault .clock w
  | uuid => exact env_answer noFault .uuid w
  | secureToken => exact env_answer noFault .secureToken w
  | query q => exact env_answer noFault (.query q) w
  | update u => exact env_answer noFault (.update u) w
  | transaction t => exact env_answer noFault (.transaction t) w
  | redis c => exact env_answer noFault (.redis c) w

/-- A request may fail without effect where everything may fail. -/
theorem env_failed {q : Req} {message : String} {a : Ans q} (h : q.failed message = some a)
    (w : World) : Env anyFault q w a w := by
  cases q with
  | clock | uuid | secureToken => cases h
  | query q => obtain rfl := Option.some.inj h; exact ⟨rfl, .inr ⟨trivial, _, rfl⟩⟩
  | update u => obtain rfl := Option.some.inj h; exact .inr (.inr ⟨trivial, ⟨_, rfl⟩, rfl⟩)
  | transaction t => obtain rfl := Option.some.inj h; exact .inr (.inr ⟨trivial, ⟨_, rfl⟩, rfl⟩)
  | redis c =>
    obtain rfl := Option.some.inj h
    exact .inr ⟨trivial, ⟨_, rfl⟩, w.redis, rfl, fun _ => .inl rfl⟩
  | verifyPassword _ _ | hashPassword _ | sendVerification _ _ _ | sendPasswordReset _ _ _ => rfl

/-- **The function answers as the relation allows.** -/
theorem outage_answer (pattern : FaultPattern) (verify : Verifier) (q : Req)
    (s : World × List Operation) :
    Outage pattern verify q s (Outage.answer pattern verify q s).1
      (Outage.answer pattern verify q s).2 := by
  unfold Outage Outage.answer
  cases hq : (pattern s.2 q.operation).bind fun message => q.failed message with
  | none => exact ⟨rfl, works_answer verify q s.1⟩
  | some failed =>
    obtain ⟨message, -, hfailed⟩ := Option.bind_eq_some_iff.mp hq
    exact ⟨rfl, rfl, env_failed hfailed s.1⟩

namespace Outage

variable {pattern : FaultPattern} {verify : Verifier} {w : World} {before : List Operation}

/-- A `SELECT` fails as the pattern says, or returns its result. -/
theorem ensures_select {q : Query} {Q : Except SqlxError q.Res → World × List Operation → Prop}
    (hfail : ∀ m, pattern before .query = some m → Q (.error (.other m)) (w, .query :: before))
    (hok : pattern before .query = none → Q (.ok (q.exec w.now w.db)) (w, .query :: before)) :
    (select q).Ensures (Outage pattern verify) Q (w, before) := by
  refine Prog.ensures_ask.mpr ?_
  rintro a ⟨w', after⟩ ⟨hafter, hanswer⟩
  obtain rfl : after = .query :: before := hafter
  cases hp : pattern before .query with
  | none =>
    simp only [Req.operation, hp, Option.bind_none] at hanswer
    obtain ⟨rfl, rfl | ⟨hfault, -⟩⟩ := hanswer
    · exact hok hp
    · exact hfault.elim
  | some m =>
    simp only [Req.operation, hp, Option.bind_some, Req.failed] at hanswer
    obtain ⟨rfl, rfl, -⟩ := hanswer
    exact hfail m hp

/-- The verification of a password fails as the pattern says, or answers by the function. -/
theorem ensures_verify {ε : Type} {password hash : String}
    {Q : Except ε (Except String Bool) → World × List Operation → Prop}
    (hfail : ∀ m, pattern before .verifyPassword = some m →
      Q (.ok (.error m)) (w, .verifyPassword :: before))
    (hok : pattern before .verifyPassword = none →
      Q (.ok (verify password hash)) (w, .verifyPassword :: before)) :
    (Prog.ask (.verifyPassword password hash) pure : Action ε (Except String Bool)).Ensures
      (Outage pattern verify) Q (w, before) := by
  refine Prog.ensures_ask.mpr ?_
  rintro a ⟨w', after⟩ ⟨hafter, hanswer⟩
  obtain rfl : after = .verifyPassword :: before := hafter
  cases hp : pattern before .verifyPassword with
  | none =>
    simp only [Req.operation, hp, Option.bind_none] at hanswer
    obtain ⟨rfl, rfl⟩ := hanswer
    exact hok hp
  | some m =>
    simp only [Req.operation, hp, Option.bind_some, Req.failed] at hanswer
    obtain ⟨rfl, rfl⟩ := hanswer
    exact hfail m hp

end Outage

end Klynt
