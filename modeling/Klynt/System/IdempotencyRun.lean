import Klynt.Lib.JsonText
import Klynt.Lib.Wp
import Klynt.Persistence.Idempotency

set_option relaxedAutoImplicit false
set_option autoImplicit false

/-!
# Reservations of an idempotency key

Processes reserve one key at the same time.  A reservation and the reading of somebody else's are
two commands, and between them the key may expire.

## Main definitions

* `IdempotentCalls`, `IdempotencyStep` — the calls, and their steps together with the time.
* `Reserved` — no call fails, a key is reserved once in its lifetime, and every other call returns
  the value of a call that holds the reservation meanwhile.
* `InTime` — the key lives whenever it is read.

## Main results

* `reserved_iff_inTime` — the calls do what they should in exactly the timely runs.
* `expired_between` — a run in which a key expires between the two commands of a call.
-/

namespace Klynt

/-! ## Calls -/

/-- Calls of `get_or_insert` on one key. -/
structure IdempotentCalls (ι T : Type) where
  /-- How values are written. -/
  payload : Payload T
  /-- The time to live that the process of a call asks for. -/
  ttlSeconds : ι → UInt64
  /-- The value of a call. -/
  value : ι → T
  /-- The key. -/
  idempotencyKey : Uuid

/-- Calls over one key-value store. -/
abbrev IdempotencyPool (ι T : Type) : Type :=
  Pool ι RedisReq RedisAns DomainError (Option T) RedisStore

/-- What a step of the calls does. -/
abbrev IdempotencyLabel (ι : Type) : Type := Pool.Label ι RedisReq RedisAns

/-- A history of calls. -/
abbrev IdempotencyHistory (ι T : Type) : Type := List (IdempotencyPool ι T × IdempotencyLabel ι)

/-- The steps of calls: a command of a call, or time passes. -/
abbrev IdempotencyStep {ι T : Type} [DecidableEq ι] :
    IdempotencyPool ι T → IdempotencyLabel ι → IdempotencyPool ι T → Prop :=
  Pool.Step RedisStore.Env RedisStore.Passes

namespace IdempotentCalls

variable {ι T : Type} (calls : IdempotentCalls ι T)

/-- The name of the key in the store. -/
def key : String := RedisIdempotencyStore.key calls.idempotencyKey

/-- A call. -/
def run (i : ι) : RedisIdempotencyStore.Action (Option T) :=
  RedisIdempotencyStore.getOrInsert ⟨calls.ttlSeconds i, calls.payload⟩ calls.idempotencyKey
    (calls.value i)

/-- The calls are about to start, and nothing is stored. -/
def Init (P : IdempotencyPool ι T) : Prop :=
  (∀ i, P.threads i = calls.run i) ∧ P.world.live calls.key = none

/-- The key lives. -/
def Live (P : IdempotencyPool ι T) : Prop := (P.world.live calls.key).isSome = true

end IdempotentCalls

/-- The call that reserves the key in a step. -/
def reserver {ι : Type} : IdempotencyLabel ι → Option ι
  | some (i, ⟨.setNxEx _ _ _, .ok (some _)⟩) => some i
  | _ => none

/-- The call that reserved the key last. -/
def lastReserver {ι T : Type} (tr : IdempotencyHistory ι T) : Option ι :=
  tr.findSome? fun e => reserver e.2

section Reserved

variable {ι T : Type} (calls : IdempotentCalls ι T)

/-- A call holds the reservation: it reserved the key last, and the key lives. -/
def Holds (j : ι) (older : IdempotencyHistory ι T) (P : IdempotencyPool ι T) : Prop :=
  lastReserver older = some j ∧ calls.Live P

/-- **What the calls should do.** -/
structure Reserved (tr : IdempotencyHistory ι T) (P : IdempotencyPool ι T) : Prop where
  /-- No call fails. -/
  noError : ∀ i e, P.threads i ≠ .done (.error e)
  /-- A call that obtains the reservation reserves the key. -/
  reserves : ∀ i, P.threads i = .done (.ok none) → ∃ e ∈ tr, reserver e.2 = some i
  /-- Between two reservations the key expires. -/
  once : ∀ newer between older e e' i j, tr = newer ++ e' :: (between ++ e :: older) →
    reserver e.2 = some i → reserver e'.2 = some j → ∃ e₀ ∈ e' :: between, ¬ calls.Live e₀.1
  /-- A call that obtains a value has it from a call that holds the reservation when a command of
  the first call is executed. -/
  value : ∀ i v, P.threads i = .done (.ok (some v)) →
    ∃ newer Q event older j, tr = newer ++ (Q, some (i, event)) :: older ∧
      Holds calls j older Q ∧ calls.value j = v

/-- A step is timely: the store accepts the time to live of a reservation, and the key lives when it
is read. -/
def StepInTime (P : IdempotencyPool ι T) : IdempotencyLabel ι → Prop
  | some (_, ⟨.setNxEx _ _ ttl, _⟩) => P.world.ExpiryOk ttl
  | some (_, ⟨.get _, _⟩) => calls.Live P
  | _ => True

/-- **All steps are timely.** -/
def InTime (tr : IdempotencyHistory ι T) : Prop := ∀ e ∈ tr, StepInTime calls e.1 e.2

end Reserved

/-! ## What a call has done -/

namespace IdempotentCalls

variable {ι T : Type} (calls : IdempotentCalls ι T) {i : ι} {raw : String}

/-- What comes of the answer to the second command. -/
def readResult : Except String (Option String) → Except DomainError (Option T)
  | .error message => .error (RedisIdempotencyStore.failed "get" message)
  | .ok none =>
    .error (RedisIdempotencyStore.failed "get" "Response was of incompatible type - TypeError")
  | .ok (some stored) =>
    ((calls.payload.decode stored).mapError (RedisIdempotencyStore.failed "deserialize")).map some

/-- What is left of a call after its first command. -/
def afterSet : Except String (Option String) → RedisIdempotencyStore.Action (Option T)
  | .error message => .done (.error (RedisIdempotencyStore.failed "get_or_insert" message))
  | .ok (some _) => .done (.ok none)
  | .ok none => .ask (.get calls.key) fun a => .done (calls.readResult a)

/-- **The commands of a call.** -/
lemma run_eq (hraw : calls.payload.encode (calls.value i) = .ok raw) :
    calls.run i = .ask (.setNxEx calls.key raw (calls.ttlSeconds i)) calls.afterSet := by
  unfold run RedisIdempotencyStore.getOrInsert
  dsimp only
  rw [hraw]
  refine congrArg (Prog.ask _) (funext fun a => ?_)
  rcases a with message | (_ | text)
  · rfl
  · refine congrArg (Prog.ask _) (funext fun stored => ?_)
    rcases stored with message | (_ | stored)
    · rfl
    · rfl
    · change Prog.bind (.done ((calls.payload.decode stored).mapError _))
        (fun v => .done (.ok (some v))) = .done (calls.readResult (.ok (some stored)))
      unfold readResult
      dsimp only
      cases calls.payload.decode stored <;> rfl
  · rfl

/-- The first command of a call. -/
def setEvent (i : ι) (raw : String) (a : Except String (Option String)) :
    Prog.Event RedisReq RedisAns := ⟨.setNxEx calls.key raw (calls.ttlSeconds i), a⟩

/-- The second command of a call. -/
def getEvent (a : Except String (Option String)) : Prog.Event RedisReq RedisAns := ⟨.get calls.key, a⟩

/-- **What is left of a call, and what it has done**, newest first. -/
inductive CallAt (i : ι) :
    RedisIdempotencyStore.Action (Option T) → List (Prog.Event RedisReq RedisAns) → Prop
  /-- The call has not started. -/
  | ready : CallAt i (calls.run i) []
  /-- The first command is answered. -/
  | set {raw : String} (a : Except String (Option String))
      (hraw : calls.payload.encode (calls.value i) = .ok raw) :
      CallAt i (calls.afterSet a) [calls.setEvent i raw a]
  /-- Both commands are answered. -/
  | got {raw : String} (a : Except String (Option String))
      (hraw : calls.payload.encode (calls.value i) = .ok raw) :
      CallAt i (.done (calls.readResult a)) [calls.getEvent a, calls.setEvent i raw (.ok none)]

variable {calls}

/-- A command of a call is answered. -/
lemma CallAt.step {p : RedisIdempotencyStore.Action (Option T)}
    {h : List (Prog.Event RedisReq RedisAns)} (hc : CallAt calls i p h) {q : RedisReq}
    {k : RedisAns q → RedisIdempotencyStore.Action (Option T)} (hp : p = .ask q k) (a : RedisAns q) :
    CallAt calls i (k a) (⟨q, a⟩ :: h) := by
  cases hc with
  | ready =>
    obtain ⟨raw, hraw⟩ := calls.payload.encodes (calls.value i)
    rw [calls.run_eq hraw] at hp
    obtain ⟨rfl, hk⟩ := Prog.ask.inj hp
    obtain rfl := eq_of_heq hk
    exact .set a hraw
  | @set raw a' hraw =>
    rcases a' with message | (_ | text)
    · cases hp
    · obtain ⟨rfl, hk⟩ := Prog.ask.inj hp
      obtain rfl := eq_of_heq hk
      exact .got a hraw
    · cases hp
  | got a' hraw => cases hp

end IdempotentCalls

section Run

variable {ι T : Type} [DecidableEq ι] {calls : IdempotentCalls ι T} {tr : IdempotencyHistory ι T}
  {P : IdempotencyPool ι T}

/-- **Every call is where its commands have led it.** -/
lemma callAt_of_run (h : Run calls.Init IdempotencyStep tr P) (i : ι) :
    calls.CallAt i (P.threads i) (Pool.mine i (Pool.log tr)) := by
  induction h with
  | start hinit =>
    rw [hinit.1 i]
    exact .ready
  | @snoc tr P P' l hrun hstep ih =>
    cases hstep with
    | tick hT => exact ih
    | @run j q k a w hj hE =>
      by_cases hij : j = i
      · subst hij
        dsimp only
        rw [Function.update_self, Pool.log_cons_some, Pool.mine_cons_self]
        exact ih.step hj a
      · dsimp only
        rw [Function.update_of_ne (Ne.symm hij), Pool.log_cons_some, Pool.mine_cons_of_ne hij]
        exact ih

/-- A command was answered by the store. -/
lemma answered (h : Run calls.Init IdempotencyStep tr P) {Q : IdempotencyPool ι T} {i : ι}
    {q : RedisReq} {a : RedisAns q} (he : (Q, some (i, ⟨q, a⟩)) ∈ tr) :
    (RedisStore.answer q Q.world).1 = a := by
  obtain ⟨-, -, m, -, -, hstep, -⟩ := h.of_mem he
  cases hstep with
  | run hi hE => exact (congrArg Prod.fst hE).symm

/-- The commands of a call. -/
lemma event_cases (h : Run calls.Init IdempotencyStep tr P) {Q : IdempotencyPool ι T} {i : ι}
    {event : Prog.Event RedisReq RedisAns} (he : (Q, some (i, event)) ∈ tr) :
    (∃ raw a, calls.payload.encode (calls.value i) = .ok raw ∧ event = calls.setEvent i raw a) ∨
      ∃ a, event = calls.getEvent a := by
  have hmem : event ∈ Pool.mine i (Pool.log tr) :=
    Pool.mem_mine.mpr (Pool.mem_log.mpr ⟨Q, he⟩)
  revert hmem
  generalize hp : P.threads i = p
  have hc := callAt_of_run h i
  rw [hp] at hc
  generalize Pool.mine i (Pool.log tr) = mine at hc
  intro hmem
  cases hc with
  | ready => cases hmem
  | set a hraw =>
    rcases List.mem_singleton.mp hmem with rfl
    exact .inl ⟨_, a, hraw, rfl⟩
  | got a hraw =>
    rcases List.mem_cons.mp hmem with rfl | hmem
    · exact .inr ⟨a, rfl⟩
    · rcases List.mem_singleton.mp hmem with rfl
      exact .inl ⟨_, _, hraw, rfl⟩

/-- A step that reserves the key is a first command with a positive answer. -/
lemma eq_setEvent_of_reserver (h : Run calls.Init IdempotencyStep tr P) {Q : IdempotencyPool ι T}
    {l : IdempotencyLabel ι} (he : (Q, l) ∈ tr) {i : ι} (hr : reserver l = some i) :
    ∃ raw text, calls.payload.encode (calls.value i) = .ok raw ∧
      l = some (i, calls.setEvent i raw (.ok (some text))) := by
  rcases l with _ | ⟨j, event⟩
  · cases hr
  · rcases event_cases h he with ⟨raw, a, hraw, rfl⟩ | ⟨a, rfl⟩
    · rcases a with message | (_ | text)
      · cases hr
      · cases hr
      · obtain rfl := Option.some.inj hr
        exact ⟨raw, text, hraw, rfl⟩
    · cases hr

/-- **The key is reserved only if it does not live.** -/
lemma not_live_of_reserver (h : Run calls.Init IdempotencyStep tr P) {Q : IdempotencyPool ι T}
    {l : IdempotencyLabel ι} (he : (Q, l) ∈ tr) {i : ι} (hr : reserver l = some i) :
    ¬ calls.Live Q := by
  obtain ⟨raw, text, -, rfl⟩ := eq_setEvent_of_reserver h he hr
  have hanswer := answered h he
  rcases RedisStore.answer_setNxEx Q.world calls.key raw (calls.ttlSeconds i) with
    ⟨-, heq⟩ | ⟨-, -, heq⟩ | ⟨-, hlive, -⟩
  · rw [heq] at hanswer
    cases hanswer
  · rw [heq] at hanswer
    cases hanswer
  · intro hl
    rw [IdempotentCalls.Live, hlive] at hl
    cases hl

omit [DecidableEq ι] in
/-- The last reservation of a history that goes on. -/
lemma lastReserver_cons (e : IdempotencyPool ι T × IdempotencyLabel ι) :
    lastReserver (e :: tr) = (reserver e.2).or (lastReserver tr) := by
  unfold lastReserver
  rw [List.findSome?_cons]
  cases reserver e.2 <;> rfl

/-- **What lives under the key is the value of the call that reserved it last.**

**Proof sketch.** By induction on the run.  Time and the other commands only make the key expire,
and a reservation stores the value of its call. -/
lemma live_of_run (h : Run calls.Init IdempotencyStep tr P) {raw : String}
    (hlive : P.world.live calls.key = some raw) :
    ∃ j, lastReserver tr = some j ∧ calls.payload.encode (calls.value j) = .ok raw := by
  induction h generalizing raw with
  | start hinit =>
    rw [hinit.2] at hlive
    cases hlive
  | @snoc tr P P' l hrun hstep ih =>
    have hrun' := hrun.snoc hstep
    rw [lastReserver_cons]
    cases hstep with
    | tick hT => exact ih (hT.live hlive)
    | @run j q k a w hj hE =>
      rcases event_cases hrun' List.mem_cons_self with ⟨raw', a', hraw', heq⟩ | ⟨a', heq⟩
      · obtain ⟨rfl, ha⟩ := Sigma.mk.inj heq
        obtain rfl := eq_of_heq ha
        rcases RedisStore.answer_setNxEx P.world calls.key raw' (calls.ttlSeconds j) with
          ⟨-, hanswer⟩ | ⟨-, -, hanswer⟩ | ⟨-, -, hanswer⟩
        · obtain ⟨rfl, rfl⟩ := Prod.mk.inj (hE.trans hanswer)
          exact ih hlive
        · obtain ⟨rfl, rfl⟩ := Prod.mk.inj (hE.trans hanswer)
          exact ih hlive
        · obtain ⟨rfl, rfl⟩ := Prod.mk.inj (hE.trans hanswer)
          obtain rfl := Option.some.inj (RedisStore.live_put.symm.trans hlive)
          exact ⟨j, rfl, hraw'⟩
      · obtain ⟨rfl, ha⟩ := Sigma.mk.inj heq
        obtain rfl := eq_of_heq ha
        obtain ⟨-, rfl⟩ := Prod.mk.inj hE
        exact ih hlive

/-- A call whose first command failed has failed. -/
lemma threads_of_setEvent (h : Run calls.Init IdempotencyStep tr P) {Q : IdempotencyPool ι T} {i : ι}
    {raw message : String} (he : (Q, some (i, calls.setEvent i raw (.error message))) ∈ tr) :
    ∃ e, P.threads i = .done (.error e) := by
  have hmem := Pool.mem_mine.mpr (Pool.mem_log.mpr ⟨Q, he⟩)
  have hc := callAt_of_run h i
  generalize P.threads i = p, Pool.mine i (Pool.log tr) = mine at hc hmem
  cases hc with
  | ready => cases hmem
  | set a hraw =>
    obtain ⟨-, ha⟩ := Sigma.mk.inj (List.mem_singleton.mp hmem)
    obtain rfl := eq_of_heq ha
    exact ⟨_, rfl⟩
  | got a hraw =>
    rcases List.mem_cons.mp hmem with heq | hmem
    · cases heq
    · cases List.mem_singleton.mp hmem

/-- A call whose second command was answered is done. -/
lemma threads_of_getEvent (h : Run calls.Init IdempotencyStep tr P) {Q : IdempotencyPool ι T} {i : ι}
    {a : Except String (Option String)} (he : (Q, some (i, calls.getEvent a)) ∈ tr) :
    P.threads i = .done (calls.readResult a) := by
  have hmem := Pool.mem_mine.mpr (Pool.mem_log.mpr ⟨Q, he⟩)
  have hc := callAt_of_run h i
  generalize P.threads i = p, Pool.mine i (Pool.log tr) = mine at hc hmem
  cases hc with
  | ready => cases hmem
  | set a' hraw => cases List.mem_singleton.mp hmem
  | got a' hraw =>
    rcases List.mem_cons.mp hmem with heq | hmem
    · obtain ⟨-, ha⟩ := Sigma.mk.inj heq
      obtain rfl := eq_of_heq ha
      rfl
    · cases List.mem_singleton.mp hmem

/-- **If no call has failed, all steps were timely.** -/
lemma inTime_of_noError (h : Run calls.Init IdempotencyStep tr P)
    (hno : ∀ i e, P.threads i ≠ .done (.error e)) : InTime calls tr := by
  rintro ⟨Q, _ | ⟨i, event⟩⟩ he
  · trivial
  rcases event_cases h he with ⟨raw, a, hraw, rfl⟩ | ⟨a, rfl⟩
  · change Q.world.ExpiryOk (calls.ttlSeconds i)
    have hanswer := answered h he
    rcases RedisStore.answer_setNxEx Q.world calls.key raw (calls.ttlSeconds i) with
      ⟨-, heq⟩ | ⟨hok, -, -⟩ | ⟨hok, -, -⟩
    · rw [heq] at hanswer
      subst hanswer
      obtain ⟨e, hdone⟩ := threads_of_setEvent h he
      exact absurd hdone (hno i e)
    · exact hok
    · exact hok
  · change (Q.world.live calls.key).isSome = true
    have hanswer : .ok (Q.world.live calls.key) = a := answered h he
    cases hlive : Q.world.live calls.key with
    | some raw => rfl
    | none =>
      rw [hlive] at hanswer
      subst hanswer
      exact absurd (threads_of_getEvent h he) (hno i _)

/-- **What a call has read**, if the key lived: the value of a call that held the reservation. -/
lemma read_of_inTime (h : Run calls.Init IdempotencyStep tr P) (ht : InTime calls tr)
    {Q : IdempotencyPool ι T} {i : ι} {a : Except String (Option String)}
    (he : (Q, some (i, calls.getEvent a)) ∈ tr) :
    ∃ newer older j, tr = newer ++ (Q, some (i, calls.getEvent a)) :: older ∧
      Holds calls j older Q ∧ calls.readResult a = .ok (some (calls.value j)) := by
  have hanswer : .ok (Q.world.live calls.key) = a := answered h he
  have hlive : (Q.world.live calls.key).isSome = true := ht _ he
  obtain ⟨raw, hraw⟩ := Option.isSome_iff_exists.mp hlive
  rw [hraw] at hanswer
  subst hanswer
  obtain ⟨newer, older, -, htr, holder, -, -⟩ := h.of_mem he
  obtain ⟨j, hj, hencode⟩ := live_of_run holder hraw
  refine ⟨newer, older, j, htr, ⟨hj, hlive⟩, ?_⟩
  have hread : calls.readResult (.ok (some raw)) =
      ((calls.payload.decode raw).mapError (RedisIdempotencyStore.failed "deserialize")).map some := rfl
  rw [hread, calls.payload.decode_encode _ _ hencode]
  rfl

/-- **How a call has finished**: with the answer to its first command, or to its second one. -/
lemma done_cases (h : Run calls.Init IdempotencyStep tr P) {i : ι} {r : Except DomainError (Option T)}
    (hdone : P.threads i = .done r) :
    (∃ Q raw message, (Q, some (i, calls.setEvent i raw (.error message))) ∈ tr) ∨
      (∃ Q raw text, (Q, some (i, calls.setEvent i raw (.ok (some text)))) ∈ tr ∧ r = .ok none) ∨
      ∃ Q a, (Q, some (i, calls.getEvent a)) ∈ tr ∧ r = calls.readResult a := by
  have hlog : ∀ {event}, event ∈ Pool.mine i (Pool.log tr) → ∃ Q, (Q, some (i, event)) ∈ tr :=
    fun hmem => Pool.mem_log.mp (Pool.mem_mine.mp hmem)
  have hc := callAt_of_run h i
  generalize P.threads i = p, Pool.mine i (Pool.log tr) = mine at hc hdone hlog
  cases hc with
  | ready =>
    obtain ⟨raw, hraw⟩ := calls.payload.encodes (calls.value i)
    rw [calls.run_eq hraw] at hdone
    cases hdone
  | @set raw a hraw =>
    obtain ⟨Q, hQ⟩ := hlog List.mem_cons_self
    rcases a with message | (_ | text)
    · exact .inl ⟨Q, raw, message, hQ⟩
    · cases hdone
    · exact .inr (.inl ⟨Q, raw, text, hQ, (Prog.done.inj hdone).symm⟩)
  | got a hraw =>
    obtain ⟨Q, hQ⟩ := hlog List.mem_cons_self
    exact .inr (.inr ⟨Q, a, hQ, (Prog.done.inj hdone).symm⟩)

/-- In a timely run every reservation is answered. -/
lemma not_error_of_inTime (h : Run calls.Init IdempotencyStep tr P) (ht : InTime calls tr)
    {Q : IdempotencyPool ι T} {i : ι} {raw message : String} :
    (Q, some (i, calls.setEvent i raw (.error message))) ∉ tr := by
  intro he
  have hok : Q.world.ExpiryOk (calls.ttlSeconds i) := ht _ he
  have hanswer := answered h he
  rcases RedisStore.answer_setNxEx Q.world calls.key raw (calls.ttlSeconds i) with
    ⟨hnot, -⟩ | ⟨-, -, heq⟩ | ⟨-, -, heq⟩
  · exact hnot hok
  · rw [heq] at hanswer
    cases hanswer
  · rw [heq] at hanswer
    cases hanswer

/-- **The calls do what they should in exactly the timely runs**: no call fails, a key is reserved
once in its lifetime, and every other call returns the value of a call that holds the reservation
meanwhile, iff the store accepts the times to live and the key lives whenever it is read.

**Proof sketch.** A call is done after one or two commands (`callAt_of_run`), so an untimely step is
the failure of its call.  A live key holds the value of the call that reserved it last
(`live_of_run`), and is not reserved (`not_live_of_reserver`). -/
theorem reserved_iff_inTime (h : Run calls.Init IdempotencyStep tr P) :
    Reserved calls tr P ↔ InTime calls tr := by
  constructor
  · intro hr
    exact inTime_of_noError h hr.noError
  intro ht
  refine ⟨fun i e hdone => ?_, fun i hdone => ?_, ?_, fun i v hdone => ?_⟩
  · rcases done_cases h hdone with ⟨Q, raw, message, he⟩ | ⟨Q, raw, text, -, heq⟩ | ⟨Q, a, he, heq⟩
    · exact not_error_of_inTime h ht he
    · cases heq
    · obtain ⟨_, _, _, _, _, hread⟩ := read_of_inTime h ht he
      cases heq.trans hread
  · rcases done_cases h hdone with ⟨Q, raw, message, he⟩ | ⟨Q, raw, text, he, -⟩ | ⟨Q, a, he, heq⟩
    · exact absurd he (not_error_of_inTime h ht)
    · exact ⟨_, he, rfl⟩
    · obtain ⟨_, _, _, _, _, hread⟩ := read_of_inTime h ht he
      cases heq.trans hread
  · intro newer between older e e' i j htr _ hr
    have he : (e'.1, e'.2) ∈ tr := htr ▸ List.mem_append_right _ List.mem_cons_self
    exact ⟨e', List.mem_cons_self, not_live_of_reserver h he hr⟩
  · rcases done_cases h hdone with ⟨Q, raw, message, he⟩ | ⟨Q, raw, text, -, heq⟩ | ⟨Q, a, he, heq⟩
    · exact absurd he (not_error_of_inTime h ht)
    · cases heq
    · obtain ⟨newer, older, j, htr, hholds, hread⟩ := read_of_inTime h ht he
      have hv : v = calls.value j := Option.some.inj (Except.ok.inj (heq.trans hread))
      exact ⟨newer, Q, _, older, j, htr, hholds, hv.symm⟩

end Run

namespace Scenario

/-- The text that stands in quotes. -/
def unquoted (raw : String) : Except String String :=
  match JsonText.readString raw.length raw.toList.tail with
  | some (value, []) => .ok (String.ofList value)
  | _ => .error "expected a string"

/-- Quotes around a text are taken off. -/
lemma unquoted_writeString (value : String) :
    unquoted (String.ofList (JsonText.writeString value)) = .ok value := by
  have hread := JsonText.readString_writeString value []
  unfold unquoted
  rw [String.length_ofList, String.toList_ofList]
  change (match JsonText.readString ((value.toList.flatMap JsonText.escape ++ ['"']).length + 1)
      (value.toList.flatMap JsonText.escape ++ ['"']) with
    | some (value, []) => Except.ok (String.ofList value)
    | _ => Except.error "expected a string") = _
  rw [hread]
  exact congrArg Except.ok String.ofList_toList

/-- Texts are stored in quotes. -/
def quoted : Payload String where
  encode value := .ok (String.ofList (JsonText.writeString value))
  decode := unquoted
  encodes _ := ⟨_, rfl⟩
  decode_encode value _ h := Except.ok.inj h ▸ unquoted_writeString value

/-- Two processes reserve a key for a minute. -/
def keyCalls : IdempotentCalls Bool String where
  payload := quoted
  ttlSeconds := fun _ => 60
  value := fun i => if i then "first" else "second"
  idempotencyKey := 700

/-- The calls start, and some of their commands are executed. -/
def keyCallsPlayed (turns : List Bool) : IdempotencyHistory Bool String × IdempotencyPool Bool String :=
  Pool.schedule RedisStore.answer turns
    { threads := keyCalls.run, world := { entries := fun _ => none, now := 0 } } []

/-- They are a run. -/
lemma run_keyCallsPlayed (turns : List Bool) :
    Run keyCalls.Init IdempotencyStep (keyCallsPlayed turns).1 (keyCallsPlayed turns).2 :=
  Pool.run_schedule (fun _ _ => rfl) turns (.start ⟨fun _ => rfl, rfl⟩)

/-- A minute passes after the first command of each call. -/
def minuteLater : IdempotencyPool Bool String :=
  { threads := (keyCallsPlayed [true, false]).2.threads
    world := { (keyCallsPlayed [true, false]).2.world with now := 60001 } }

/-- The second command of the other call is executed then. -/
def expiredCalls : IdempotencyHistory Bool String × IdempotencyPool Bool String :=
  Pool.schedule RedisStore.answer [false] minuteLater
    (((keyCallsPlayed [true, false]).2, none) :: (keyCallsPlayed [true, false]).1)

end Scenario

/-- One call reserves the key, and the other one reads its value. -/
theorem reserved_played :
    Reserved Scenario.keyCalls (Scenario.keyCallsPlayed [true, false, false]).1
      (Scenario.keyCallsPlayed [true, false, false]).2 := by
  refine (reserved_iff_inTime (Scenario.run_keyCallsPlayed _)).mpr ?_
  refine List.forall_mem_cons.mpr ⟨rfl, List.forall_mem_cons.mpr ⟨?_, ?_⟩⟩
  · exact ⟨by decide, by decide⟩
  · exact List.forall_mem_singleton.mpr ⟨by decide, by decide⟩

/-- The key expires between the two commands of a call, and the call fails. -/
theorem expired_between :
    Run Scenario.keyCalls.Init IdempotencyStep Scenario.expiredCalls.1 Scenario.expiredCalls.2 ∧
      ¬ Reserved Scenario.keyCalls Scenario.expiredCalls.1 Scenario.expiredCalls.2 := by
  have hrun := (Scenario.run_keyCallsPlayed [true, false]).snoc
    (Pool.Step.tick (w := Scenario.minuteLater.world) ⟨rfl, Nat.zero_le _⟩)
  refine ⟨Pool.run_schedule (fun _ _ => rfl) [false] hrun, fun hr => ?_⟩
  exact hr.noError false _ rfl

end Klynt
