import Klynt.Lib.Wp
import Klynt.Persistence.Transaction

set_option relaxedAutoImplicit false
set_option autoImplicit false

/-!
# The world the services act on

The database, the session cache, the clock and the random generator, and the requests that
reach them.  A service function is a program over these requests; each request is atomic.

## Main definitions

* `Redis`, `Command` — the session cache with its expiry times, and its commands.
* `World` — everything a request can read or change.
* `Req`, `Ans`, `Action` — the requests, their answers, and the programs that issue them.
* `Env` — how the world answers: requests in a given set may also fail.
* `World.answer` — the answers of a world in which nothing fails, as a function.
* `Scenario.world` — a small platform to evaluate services on.

## Main results

* `env_answer` — the function answers as the relation allows.
* `exec_query`, `exec_update`, … — the runs of a single request.

## Implementation notes

The cache key of a session is `session:<token>`; texts of UUIDs are injective
(`Uuid.render_injective`), so the cache is a map from tokens.  A failed cache command may have
been carried out at any of its keys.  A failed statement or transaction has no effect.
-/

namespace Klynt

/-! ## The session cache -/

/-- A cached session with the instant its time-to-live ends. -/
structure CacheEntry where
  /-- The serialised session. -/
  session : Session
  /-- The last instant at which the entry is returned. -/
  deadline : Time

/-- The session cache: the entry under the key of each token. -/
abbrev Redis : Type := SessionToken → Option CacheEntry

/-- What `GET` finds under the key of a token. -/
def Redis.get (redis : Redis) (now : Time) (token : SessionToken) : Option Session :=
  (redis token).bind fun e => if now ≤ e.deadline then some e.session else none

/-- Commands of the session cache. -/
inductive Command where
  /-- `GET`. -/
  | get (token : SessionToken)
  /-- `SETEX` with a time-to-live in seconds. -/
  | setex (token : SessionToken) (ttl : Nat) (session : Session)
  /-- A pipeline of `DEL`s. -/
  | del (tokens : List SessionToken)

/-- The type of the result of a command. -/
def Command.Res : Command → Type
  | get _ => Option Session
  | setex _ _ _ | del _ => Unit

/-- The result of a command. -/
def Command.result (now : Time) (redis : Redis) : (c : Command) → c.Res
  | get token => redis.get now token
  | setex _ _ _ | del _ => ()

/-- The effect of a command. -/
def Command.effect (now : Time) (redis : Redis) : Command → Redis
  | get _ => redis
  | setex token ttl session =>
    Function.update redis token (some ⟨session, now + seconds ttl⟩)
  | del tokens => fun token => if token ∈ tokens then none else redis token

/-! ## Statements as requests -/

/-- The statements that change the database outside transactions. -/
inductive Update where
  /-- Update a tenant. -/
  | tenant (row : TenantRow)
  /-- Delete a tenant. -/
  | dropTenant (id : TenantId)
  /-- Insert a membership. -/
  | insertMembership (row : MembershipRow)
  /-- Change the role of a membership. -/
  | membershipRole (role : TenantRole) (t : TenantId) (u : UserId) (roleId : RoleId)
  /-- Delete a membership. -/
  | deleteMembership (t : TenantId) (u : UserId)
  /-- Delete a custom role. -/
  | dropRole (t : TenantId) (id : RoleId)
  /-- Insert an invite. -/
  | insertInvite (row : InviteRow)
  /-- Mark an invite as accepted. -/
  | acceptInvite (id : Uuid)
  /-- Insert a session. -/
  | insertSession (id : Uuid) (token : SessionToken) (u : UserId) (kind : SessionKind)
      (pairId : Option Uuid) (expiresAt : Time)
  /-- Delete a session. -/
  | deleteSession (token : SessionToken)
  /-- Delete the sessions of a pair but one. -/
  | deletePair (pairId : Uuid) (exceptToken : SessionToken)
  /-- Replace the snapshots of a session. -/
  | setMemberships (token : SessionToken) (snapshots : List MembershipSnapshot)
  /-- Add a snapshot to the active sessions of a user. -/
  | addSnapshot (u : UserId) (snapshot : MembershipSnapshot)
  /-- Change the role in the snapshots of a tenant in the active sessions of a user. -/
  | updateSnapshot (u : UserId) (snapshot : MembershipSnapshot)
  /-- Remove the snapshots of a tenant from the active sessions of a user. -/
  | removeSnapshot (u : UserId) (t : TenantId)
  /-- Insert a user. -/
  | insertUser (row : UserRow)
  /-- Change the password of a user. -/
  | updatePassword (u : UserId) (hash : String)
  /-- Update a user. -/
  | updateUser (row : UserRow)
  /-- Mark a user as deleted. -/
  | deleteUser (u : UserId)
  /-- Activate a user. -/
  | activateUser (u : UserId)
  /-- Insert a one-time token. -/
  | insertToken (kind : TokenKind) (u : UserId) (hash : String) (expiresAt : Time)
  /-- Consume a one-time token. -/
  | consumeToken (kind : TokenKind) (hash : String)

namespace Update

/-- The type of the result of a statement. -/
def Res : Update → Type
  | tenant _ | dropTenant _ | membershipRole _ _ _ _ | deleteMembership _ _ | dropRole _ _
  | acceptInvite _ | activateUser _ | updatePassword _ _ | updateUser _ | deleteUser _ => Nat
  | insertMembership _ => MembershipRow
  | consumeToken _ _ | insertUser _ => Option UserId
  | _ => Unit

/-- What a statement does. -/
def exec : (u : Update) → Statement u.Res
  | tenant row => updateTenant row
  | dropTenant id => Klynt.deleteTenant id
  | insertMembership row => Klynt.insertMembership row
  | membershipRole role t u roleId => updateMembershipRole role.asStr t u roleId
  | deleteMembership t u => Klynt.deleteMembership t u
  | dropRole t id => Klynt.deleteRole t id
  | insertInvite row => Klynt.insertInvite row
  | acceptInvite id => markInviteAccepted id
  | insertSession id token u kind pairId expiresAt =>
    Klynt.insertSession id token u kind.asStr pairId expiresAt
  | deleteSession token => Klynt.deleteSession token
  | deletePair pairId exceptToken => Klynt.deletePair pairId exceptToken
  | setMemberships token snapshots =>
    setSessionMemberships token (MembershipSnapshot.encode snapshots)
  | addSnapshot u snapshot =>
    editSessionMemberships (MembershipSnapshot.addTo snapshot.toJson) u
  | updateSnapshot u snapshot =>
    editSessionMemberships (MembershipSnapshot.updateIn snapshot.tenantId snapshot.role.asStr) u
  | removeSnapshot u t => editSessionMemberships (MembershipSnapshot.removeFrom t.inner) u
  | insertUser row => Klynt.insertUser row
  | updatePassword u hash => Klynt.updatePassword u hash
  | updateUser row => Klynt.updateUser row
  | deleteUser u => Klynt.deleteUser u
  | activateUser u => Klynt.activateUser u
  | insertToken kind u hash expiresAt => Klynt.insertToken kind u hash expiresAt
  | consumeToken kind hash => Klynt.consumeToken kind hash

end Update

/-! ## Requests -/

/-- Everything a request can read or change. -/
structure World where
  /-- The clock. -/
  now : Time
  /-- The database. -/
  db : Db
  /-- The session cache. -/
  redis : Redis
  /-- The UUIDs generated so far. -/
  minted : List Uuid

/-- Requests of a service to the world. -/
inductive Req where
  /-- `Utc::now ()`. -/
  | clock
  /-- `Uuid::new_v4 ()`, and the defaults `gen_random_uuid ()` of the database. -/
  | uuid
  /-- `generate_secure_token ()`. -/
  | secureToken
  /-- A `SELECT`. -/
  | query (q : Query)
  /-- A statement outside transactions. -/
  | update (u : Update)
  /-- A transaction. -/
  | transaction (t : Transaction)
  /-- A cache command. -/
  | redis (c : Command)
  /-- Verify a password against a hash. -/
  | verifyPassword (password hash : String)
  /-- Hash a password. -/
  | hashPassword (password : String)
  /-- Send a verification message. -/
  | sendVerification (email token baseUrl : String)
  /-- Send a message for a password reset. -/
  | sendPasswordReset (email token baseUrl : String)

/-- The answer to a request. -/
def Ans : Req → Type
  | .clock => Time
  | .uuid => Uuid
  | .secureToken => String
  | .query q => Except SqlxError q.Res
  | .update u => Except SqlxError u.Res
  | .transaction t => Except DomainError t.Res
  | .redis c => Except String c.Res
  | .verifyPassword _ _ => Except String Bool
  | .hashPassword _ => Except String String
  | .sendVerification _ _ _ => Except String Unit
  | .sendPasswordReset _ _ _ => Except String Unit

/-- Programs of the services. -/
abbrev Action (ε α : Type) : Type := Prog Req Ans ε α

/-- How the world answers a request when the requests in `F` may also fail. -/
def Env (F : Req → Prop) : (q : Req) → World → Ans q → World → Prop
  | .clock, w, a, w' => a = w.now ∧ w' = w
  | .uuid, w, a, w' => w' = { w with minted := a :: w.minted }
  | .secureToken, w, _, w' => w' = w
  | .query q, w, a, w' => w' = w ∧
      (a = .ok (q.exec w.now w.db) ∨ F (.query q) ∧ ∃ m, a = .error (.other m))
  | .update u, w, a, w' =>
      (∃ r db, u.exec w.now w.db = .ok (r, db) ∧ a = .ok r ∧ w' = { w with db }) ∨
      (∃ e, u.exec w.now w.db = .error e ∧ a = .error e ∧ w' = w) ∨
      (F (.update u) ∧ (∃ m, a = .error (.other m)) ∧ w' = w)
  | .transaction t, w, a, w' =>
      (∃ r db, t.exec w.now w.db = .ok (r, db) ∧ a = .ok r ∧ w' = { w with db }) ∨
      (∃ e, t.exec w.now w.db = .error e ∧ a = .error e ∧ w' = w) ∨
      (F (.transaction t) ∧ (∃ m, a = .error (.internal m)) ∧ w' = w)
  | .redis c, w, a, w' =>
      (a = .ok (c.result w.now w.redis) ∧ w' = { w with redis := c.effect w.now w.redis }) ∨
      (F (.redis c) ∧ (∃ m, a = .error m) ∧ ∃ redis, w' = { w with redis } ∧
        ∀ k, redis k = w.redis k ∨ redis k = c.effect w.now w.redis k)
  | .verifyPassword _ _, w, _, w' => w' = w
  | .hashPassword _, w, _, w' => w' = w
  | .sendVerification _ _ _, w, _, w' => w' = w
  | .sendPasswordReset _ _ _, w, _, w' => w' = w

/-- No request fails. -/
def noFault : Req → Prop := fun _ => False

/-- Every request may fail. -/
def anyFault : Req → Prop := fun _ => True

/-- An outcome and the new world, from the outcome of a statement or transaction. -/
def World.settle {ε α : Type} (w : World) : Except ε (α × Db) → Except ε α × World
  | .ok (r, db) => (.ok r, { w with db })
  | .error e => (.error e, w)

/-- The answers of a world in which nothing fails and every password is right. -/
def World.answer : (q : Req) → World → Ans q × World
  | .clock, w => (w.now, w)
  | .uuid, w =>
    (BitVec.ofNat 128 w.minted.length,
      { w with minted := BitVec.ofNat 128 w.minted.length :: w.minted })
  | .secureToken, w => ("", w)
  | .query q, w => (.ok (q.exec w.now w.db), w)
  | .update u, w => w.settle (u.exec w.now w.db)
  | .transaction t, w => w.settle (t.exec w.now w.db)
  | .redis c, w =>
    (.ok (c.result w.now w.redis), { w with redis := c.effect w.now w.redis })
  | .verifyPassword _ _, w => (.ok true, w)
  | .hashPassword password, w => (.ok password, w)
  | .sendVerification _ _ _, w => (.ok (), w)
  | .sendPasswordReset _ _ _, w => (.ok (), w)

/-- **The function answers as the relation allows**, whatever may fail. -/
theorem env_answer (F : Req → Prop) (q : Req) (w : World) :
    Env F q w (w.answer q).1 (w.answer q).2 := by
  cases q with
  | clock => exact ⟨rfl, rfl⟩
  | uuid => rfl
  | secureToken => rfl
  | query q => exact ⟨rfl, .inl rfl⟩
  | update u =>
    simp only [World.answer, Env]
    cases h : u.exec w.now w.db with
    | ok r => exact .inl ⟨r.1, r.2, rfl, rfl, rfl⟩
    | error e => exact .inr (.inl ⟨e, rfl, rfl, rfl⟩)
  | transaction t =>
    simp only [World.answer, Env]
    cases h : t.exec w.now w.db with
    | ok r => exact .inl ⟨r.1, r.2, rfl, rfl, rfl⟩
    | error e => exact .inr (.inl ⟨e, rfl, rfl, rfl⟩)
  | redis c => exact .inl ⟨rfl, rfl⟩
  | verifyPassword p h => rfl
  | hashPassword p => rfl
  | sendVerification e t b => rfl
  | sendPasswordReset e t b => rfl

/-- What the function computes is a run. -/
theorem exec_answer {ε α : Type} {p : Action ε α} {F : Req → Prop} {w : World} {r : Except ε α}
    (h : (p.eval World.answer w).1 = r) : p.Exec (Env F) w r (p.eval World.answer w).2 :=
  h ▸ Prog.exec_eval (env_answer F)

/-- What is computed without an error is a run that returns. -/
theorem exec_of_isOk {ε α : Type} {p : Action ε α} {w : World}
    (hok : (p.eval World.answer w).1.isOk = true) (F : Req → Prop) :
    ∃ a, p.Exec (Env F) w (.ok a) (p.eval World.answer w).2 := by
  cases hr : (p.eval World.answer w).1 with
  | ok a => exact ⟨a, exec_answer hr⟩
  | error e =>
    rw [hr] at hok
    cases hok

/-- More may fail in a larger set. -/
theorem Env.mono {F G : Req → Prop} (h : ∀ q, F q → G q) {q : Req} {w w' : World} {a : Ans q}
    (he : Env F q w a w') : Env G q w a w' := by
  cases q with
  | clock => exact he
  | uuid => exact he
  | secureToken => exact he
  | query q => exact ⟨he.1, he.2.imp_right fun hf => ⟨h _ hf.1, hf.2⟩⟩
  | update u => exact he.imp_right (Or.imp_right fun hf => ⟨h _ hf.1, hf.2⟩)
  | transaction t => exact he.imp_right (Or.imp_right fun hf => ⟨h _ hf.1, hf.2⟩)
  | redis c => exact he.imp_right fun hf => ⟨h _ hf.1, hf.2⟩
  | verifyPassword p s => exact he
  | hashPassword p => exact he
  | sendVerification e t b => exact he
  | sendPasswordReset e t b => exact he

/-- Requests that can change the database. -/
def Req.WritesDb : Req → Prop
  | .update _ | .transaction _ => True
  | _ => False

/-- Any other request leaves the database as it is. -/
theorem Env.db_eq {F : Req → Prop} {q : Req} {w w' : World} {a : Ans q} (h : Env F q w a w')
    (hq : ¬ q.WritesDb) : w'.db = w.db := by
  cases q with
  | clock => rw [h.2]
  | uuid => obtain rfl := h; rfl
  | secureToken => obtain rfl := h; rfl
  | query q => rw [h.1]
  | update u => exact absurd trivial hq
  | transaction t => exact absurd trivial hq
  | redis c =>
    rcases h with ⟨-, rfl⟩ | ⟨-, -, _, rfl, -⟩
    · rfl
    · rfl
  | verifyPassword p s => obtain rfl := h; rfl
  | hashPassword p => obtain rfl := h; rfl
  | sendVerification e t b => obtain rfl := h; rfl
  | sendPasswordReset e t b => obtain rfl := h; rfl

/-! ## Single requests as actions -/

/-- `Utc::now ()`. -/
def now {ε : Type} : Action ε Time := .ask .clock fun t => .done (.ok t)

/-- `Uuid::new_v4 ()`. -/
def newUuid {ε : Type} : Action ε Uuid := .ask .uuid fun u => .done (.ok u)

/-- `generate_secure_token ()`. -/
def generateSecureToken {ε : Type} : Action ε String := .ask .secureToken fun s => .done (.ok s)

/-- Run a `SELECT`. -/
def select (q : Query) : Action SqlxError q.Res := .ask (.query q) fun r => .done r

/-- Run a statement. -/
def execute (u : Update) : Action SqlxError u.Res := .ask (.update u) fun r => .done r

/-- Run a transaction. -/
def transact (t : Transaction) : Action DomainError t.Res := .ask (.transaction t) fun r => .done r

/-- Run a cache command. -/
def command (c : Command) : Action String c.Res := .ask (.redis c) fun r => .done r

section Exec

variable {F : Req → Prop} {w w' : World}

/-- Reading the clock. -/
@[simp] theorem exec_now {ε : Type} {r : Except ε Time} :
    (now : Action ε Time).Exec (Env F) w r w' ↔ r = .ok w.now ∧ w' = w := by
  constructor
  · rintro ⟨t, w₁, ⟨rfl, rfl⟩, rfl, rfl⟩; exact ⟨rfl, rfl⟩
  · rintro ⟨rfl, rfl⟩; exact ⟨_, _, ⟨rfl, rfl⟩, rfl, rfl⟩

/-- Generating a UUID. -/
@[simp] theorem exec_newUuid {ε : Type} {r : Except ε Uuid} :
    (newUuid : Action ε Uuid).Exec (Env F) w r w' ↔
      ∃ u, r = .ok u ∧ w' = { w with minted := u :: w.minted } := by
  constructor
  · rintro ⟨u, w₁, rfl, rfl, rfl⟩; exact ⟨u, rfl, rfl⟩
  · rintro ⟨u, rfl, rfl⟩; exact ⟨u, _, rfl, rfl, rfl⟩

/-- A successful `SELECT`. -/
@[simp] theorem exec_select_ok {q : Query} {a : q.Res} :
    (select q).Exec (Env F) w (.ok a) w' ↔ a = q.exec w.now w.db ∧ w' = w := by
  constructor
  · rintro ⟨r, w₁, ⟨rfl, hr⟩, rfl, rfl⟩
    refine ⟨?_, rfl⟩
    rcases hr with hr | ⟨-, m, hm⟩
    · exact Except.ok.inj hr
    · cases hm
  · rintro ⟨rfl, rfl⟩; exact ⟨_, _, ⟨rfl, .inl rfl⟩, rfl, rfl⟩

/-- A successful statement. -/
@[simp] theorem exec_execute_ok {u : Update} {a : u.Res} :
    (execute u).Exec (Env F) w (.ok a) w' ↔
      ∃ db, u.exec w.now w.db = .ok (a, db) ∧ w' = { w with db } := by
  constructor
  · rintro ⟨r, w₁, hE, rfl, rfl⟩
    rcases hE with ⟨b, db, hx, hb, rfl⟩ | ⟨e, -, he, -⟩ | ⟨-, ⟨m, hm⟩, -⟩
    · cases hb; exact ⟨db, hx, rfl⟩
    · cases he
    · cases hm
  · rintro ⟨db, hx, rfl⟩; exact ⟨_, _, .inl ⟨a, db, hx, rfl, rfl⟩, rfl, rfl⟩

/-- A successful transaction. -/
@[simp] theorem exec_transact_ok {t : Transaction} {a : t.Res} :
    (transact t).Exec (Env F) w (.ok a) w' ↔
      ∃ db, t.exec w.now w.db = .ok (a, db) ∧ w' = { w with db } := by
  constructor
  · rintro ⟨r, w₁, hE, rfl, rfl⟩
    rcases hE with ⟨b, db, hx, hb, rfl⟩ | ⟨e, -, he, -⟩ | ⟨-, ⟨m, hm⟩, -⟩
    · cases hb; exact ⟨db, hx, rfl⟩
    · cases he
    · cases hm
  · rintro ⟨db, hx, rfl⟩; exact ⟨_, _, .inl ⟨a, db, hx, rfl, rfl⟩, rfl, rfl⟩

end Exec

/-! ## Preconditions of single requests -/

section Ensures

variable {F : Req → Prop} {w : World}

/-- A `SELECT` returns its result, or fails if it may. -/
theorem ensures_select {q : Query} {Q : Except SqlxError q.Res → World → Prop} :
    (select q).Ensures (Env F) Q w ↔
      Q (.ok (q.exec w.now w.db)) w ∧ (F (.query q) → ∀ m, Q (.error (.other m)) w) := by
  constructor
  · intro h
    have h := Prog.ensures_ask.mp h
    exact ⟨h _ _ ⟨rfl, .inl rfl⟩, fun hF m => h _ _ ⟨rfl, .inr ⟨hF, m, rfl⟩⟩⟩
  · rintro ⟨hok, hfail⟩
    refine Prog.ensures_ask.mpr ?_
    rintro a w' ⟨rfl, rfl | ⟨hF, m, rfl⟩⟩
    · exact hok
    · exact hfail hF m

/-- A statement has its effect, or fails without effect. -/
theorem writes_execute (u : Update) :
    (execute u).Writes (Env F) w fun r w' =>
      ∃ db, u.exec w.now w.db = .ok (r, db) ∧ w' = { w with db } := by
  refine Prog.ensures_ask.mpr ?_
  rintro a w' (⟨r, db, hx, rfl, rfl⟩ | ⟨e, -, rfl, rfl⟩ | ⟨-, ⟨m, rfl⟩, rfl⟩)
  · exact ⟨db, hx, rfl⟩
  · rfl
  · rfl

/-- A transaction commits its effect, or fails without effect. -/
theorem writes_transact (t : Transaction) :
    (transact t).Writes (Env F) w fun r w' =>
      ∃ db, t.exec w.now w.db = .ok (r, db) ∧ w' = { w with db } := by
  refine Prog.ensures_ask.mpr ?_
  rintro a w' (⟨r, db, hx, rfl, rfl⟩ | ⟨e, -, rfl, rfl⟩ | ⟨-, ⟨m, rfl⟩, rfl⟩)
  · exact ⟨db, hx, rfl⟩
  · rfl
  · rfl

/-- A new UUID can be any. -/
theorem ensures_newUuid {ε : Type} {Q : Except ε Uuid → World → Prop}
    (h : ∀ u, Q (.ok u) { w with minted := u :: w.minted }) :
    (newUuid : Action ε Uuid).Ensures (Env F) Q w := by
  refine Prog.ensures_ask.mpr ?_
  rintro a w' rfl
  exact h a

/-- The clock is read. -/
theorem reads_now {ε : Type} : (now : Action ε Time).Reads (Env F) w (· = w.now) := by
  refine Prog.ensures_ask.mpr ?_
  rintro a w' ⟨rfl, rfl⟩
  exact ⟨rfl, fun _ h => (Except.ok.inj h).symm⟩

/-- A secure token can be any text. -/
theorem reads_generateSecureToken {ε : Type} :
    (generateSecureToken : Action ε String).Reads (Env F) w (fun _ => True) := by
  refine Prog.ensures_ask.mpr ?_
  rintro a w' rfl
  exact ⟨rfl, fun _ _ => trivial⟩

/-- A `SELECT` reads its result. -/
theorem reads_select (q : Query) : (select q).Reads (Env F) w (· = q.exec w.now w.db) :=
  ensures_select.mpr ⟨⟨rfl, fun _ h => (Except.ok.inj h).symm⟩, fun _ _ => ⟨rfl, fun _ h => by cases h⟩⟩

end Ensures

/-! ## A small platform -/

namespace Scenario

/-- A user with a given number and address. -/
def user (n : Nat) (email : String) : UserRow :=
  { id := ⟨BitVec.ofNat 128 n⟩, email, username := email, name := "", passwordHash := "",
    status := "active", emailVerifiedAt := some 0, globalRole := none, createdAt := 0,
    updatedAt := 0, termsAcceptedAt := 0, termsVersion := "", role := "student",
    institutionId := none, deletedAt := none }

/-- Three users, and the permissions of the migrations, numbered from 801. -/
def db : Db :=
  { Db.empty with
    users := [user 901 "ada@x.org", user 902 "bob@x.org", user 903 "eve@x.org"]
    permissions := permissionCatalogue.zipIdx.map fun p =>
      { id := ⟨BitVec.ofNat 128 (801 + p.2)⟩, name := p.1.1, description := p.1.2.1,
        category := p.1.2.2 } }

/-- A platform where nothing has happened. -/
def world : World := { now := 0, db, redis := fun _ => none, minted := [] }

end Scenario

end Klynt
