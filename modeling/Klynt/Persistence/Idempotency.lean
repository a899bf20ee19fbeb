import Klynt.Domain.Error
import Klynt.Lib.Prog
import Klynt.Lib.Uuid

set_option relaxedAutoImplicit false
set_option autoImplicit false

/-!
# The idempotency store

The outcome of a request is kept under a key of the client, for a while, in a key-value store that
several processes share.

## Main definitions

* `RedisReq`, `RedisAns`, `RedisStore.answer` — the commands, and what the store answers.
* `Payload` — values that are written as texts and read back.
* `RedisIdempotencyStore.get`, `set`, `getOrInsert` — the operations.

## Main results

* `RedisStore.answer_setNxEx` — what happens when a key is reserved.

## Implementation notes

Time is in milliseconds, as the store keeps it.  The connection is healthy; the store refuses a time
to live that is not positive or beyond its clock.
-/

namespace Klynt

/-! ## The key-value store -/

/-- What the store keeps under a key. -/
structure RedisEntry where
  /-- The value. -/
  value : String
  /-- When it expires. -/
  expiresAt : ℕ
  deriving DecidableEq

/-- The key-value store. -/
structure RedisStore where
  /-- The entries. -/
  entries : String → Option RedisEntry
  /-- The clock. -/
  now : ℕ

/-- A command. -/
inductive RedisReq where
  /-- `GET key`. -/
  | get (key : String)
  /-- `SET key value EX ttl`. -/
  | setEx (key value : String) (ttl : UInt64)
  /-- `SET key value NX EX ttl`. -/
  | setNxEx (key value : String) (ttl : UInt64)

/-- What is answered: an error, or a text or nil. -/
abbrev RedisAns (_ : RedisReq) : Type := Except String (Option String)

namespace RedisStore

variable (store : RedisStore) (key value : String) (ttl : UInt64)

/-- The value of a key, unless it has expired. -/
def live : Option String :=
  ((store.entries key).filter fun entry => decide (store.now ≤ entry.expiresAt)).map (·.value)

/-- A time to live that the store accepts. -/
def ExpiryOk : Prop := 0 < ttl.toNat ∧ ttl.toNat * 1000 + store.now < 2 ^ 63

instance : Decidable (store.ExpiryOk ttl) := inferInstanceAs (Decidable (_ ∧ _))

/-- A value is set, and expires later. -/
def put : RedisStore :=
  { store with
    entries := Function.update store.entries key (some ⟨value, store.now + ttl.toNat * 1000⟩) }

/-- What is answered to a command. -/
def answer : (req : RedisReq) → RedisStore → RedisAns req × RedisStore
  | .get key, store => (.ok (store.live key), store)
  | .setEx key value ttl, store =>
    if store.ExpiryOk ttl then (.ok (some "OK"), store.put key value ttl)
    else (.error "invalid expire time in 'set' command", store)
  | .setNxEx key value ttl, store =>
    if store.ExpiryOk ttl then
      if (store.live key).isSome then (.ok none, store)
      else (.ok (some "OK"), store.put key value ttl)
    else (.error "invalid expire time in 'set' command", store)

/-- The store answers as it does. -/
def Env (req : RedisReq) (store : RedisStore) (a : RedisAns req) (store' : RedisStore) : Prop :=
  (a, store') = answer req store

/-- Time passes. -/
def Passes (store store' : RedisStore) : Prop :=
  store'.entries = store.entries ∧ store.now ≤ store'.now

variable {store key value ttl} {store' : RedisStore}

/-- **What happens when a key is reserved.** -/
lemma answer_setNxEx (store : RedisStore) (key value : String) (ttl : UInt64) :
    (¬ store.ExpiryOk ttl ∧ answer (.setNxEx key value ttl) store =
        (.error "invalid expire time in 'set' command", store)) ∨
      (store.ExpiryOk ttl ∧ (store.live key).isSome = true ∧
        answer (.setNxEx key value ttl) store = (.ok none, store)) ∨
      (store.ExpiryOk ttl ∧ (store.live key).isSome = false ∧
        answer (.setNxEx key value ttl) store = (.ok (some "OK"), store.put key value ttl)) := by
  have hanswer : answer (.setNxEx key value ttl) store =
      if store.ExpiryOk ttl then
        if (store.live key).isSome then (.ok none, store)
        else (.ok (some "OK"), store.put key value ttl)
      else (.error "invalid expire time in 'set' command", store) := rfl
  rw [hanswer]
  by_cases hok : store.ExpiryOk ttl
  · rw [if_pos hok]
    cases (store.live key).isSome with
    | false => exact .inr (.inr ⟨hok, rfl, if_neg Bool.false_ne_true⟩)
    | true => exact .inr (.inl ⟨hok, rfl, if_pos rfl⟩)
  · exact .inl ⟨hok, if_neg hok⟩

/-- A value that was set is there. -/
lemma live_put : (store.put key value ttl).live key = some value := by
  unfold live put
  simp

/-- What lives after some time lived before. -/
lemma Passes.live (h : Passes store store') (hlive : store'.live key = some value) :
    store.live key = some value := by
  unfold RedisStore.live at hlive ⊢
  rw [h.1] at hlive
  obtain ⟨entry, hentry, rfl⟩ := Option.map_eq_some_iff.mp hlive
  obtain ⟨hsome, hnow⟩ := Option.filter_eq_some_iff.mp hentry
  refine Option.map_eq_some_iff.mpr ⟨entry, Option.filter_eq_some_iff.mpr ⟨hsome, ?_⟩, rfl⟩
  exact decide_eq_true (h.2.trans (of_decide_eq_true hnow))

end RedisStore

/-! ## The operations -/

/-- Values that are written as texts, `to_string` and `from_str`. -/
structure Payload (T : Type) where
  /-- The text of a value. -/
  encode : T → Except String String
  /-- The value of a text. -/
  decode : String → Except String T
  /-- A value is written. -/
  encodes : ∀ value, ∃ raw, encode value = .ok raw
  /-- What is written is read back. -/
  decode_encode : ∀ value raw, encode value = .ok raw → decode raw = .ok value

/-- A process's store. -/
structure RedisIdempotencyStore (T : Type) where
  /-- The time to live of an entry. -/
  ttlSeconds : UInt64
  /-- How values are written. -/
  payload : Payload T

namespace RedisIdempotencyStore

/-- The operations of the store. -/
abbrev Action (α : Type) : Type := Prog RedisReq RedisAns DomainError α

/-- A command. -/
def command (req : RedisReq) : Prog RedisReq RedisAns String (Option String) := .ask req .done

/-- `key`. -/
def key (idempotencyKey : Uuid) : String := "idempotency:" ++ idempotencyKey.render

/-- An error of an operation. -/
def failed (operation message : String) : DomainError :=
  .internal ("idempotency " ++ operation ++ " failed: " ++ message)

variable {T : Type} (store : RedisIdempotencyStore T) (idempotencyKey : Uuid)

/-- The value of a text that was stored. -/
def deserialize (raw : String) : Action T :=
  .done ((store.payload.decode raw).mapError (failed "deserialize"))

/-- `get`. -/
def get : Action (Option T) := do
  let raw ← (command (.get (key idempotencyKey))).mapErr (failed "get")
  match raw with
  | some value => do
    let value ← store.deserialize value
    return some value
  | none => return none

/-- `set`. -/
def set (value : T) : Action Unit := do
  let raw ← .done ((store.payload.encode value).mapError (failed "serialize"))
  let _ ← (command (.setEx (key idempotencyKey) raw store.ttlSeconds)).mapErr (failed "set")
  return ()

/-- `get_or_insert`; where a text is expected, nil is an error. -/
def getOrInsert (value : T) : Action (Option T) := do
  let raw ← .done ((store.payload.encode value).mapError (failed "serialize"))
  let wasSet ← (command (.setNxEx (key idempotencyKey) raw store.ttlSeconds)).mapErr
    (failed "get_or_insert")
  if wasSet.isSome then return none
  let stored ← (command (.get (key idempotencyKey))).mapErr (failed "get")
  match stored with
  | some stored => do
    let value ← store.deserialize stored
    return some value
  | none => .fail (failed "get" "Response was of incompatible type - TypeError")

end RedisIdempotencyStore

end Klynt
