import Klynt.Persistence.SnapshotEdit
import Klynt.Service.Auth
import Klynt.System.TenantRun

set_option relaxedAutoImplicit false
set_option autoImplicit false

/-!
# What the session stores do to the database

The cached store does to the database what the store over the database does, and then talks to
the cache.  So an operation that returns has had the effect of its statement, whichever store the
platform is run with.

## Main definitions

* `Req.LeavesDb` — the requests that change neither the database nor the clock.

## Main results

* `SessionBackend.exec_createWithKind`, `exec_updateMemberships`, `exec_handleMembershipEvent` —
  the effects of the operations that returned.
-/

namespace Klynt

/-! ## Requests that leave the database alone -/

/-- Requests that change neither the database nor the clock. -/
def Req.LeavesDb : Req → Prop
  | .update _ | .transaction _ => False
  | _ => True

section Leaves

variable {F : Req → Prop} {w w' : World} {ε α β : Type}

/-- Such a request changes neither. -/
lemma Req.LeavesDb.env {q : Req} (hq : q.LeavesDb) {a : Ans q} (h : Env F q w a w') :
    w'.db = w.db ∧ w'.now = w.now := by
  cases q with
  | clock => obtain ⟨-, rfl⟩ := h; exact ⟨rfl, rfl⟩
  | uuid => obtain rfl := h; exact ⟨rfl, rfl⟩
  | secureToken => obtain rfl := h; exact ⟨rfl, rfl⟩
  | query q => obtain ⟨rfl, -⟩ := h; exact ⟨rfl, rfl⟩
  | update u => exact hq.elim
  | transaction t => exact hq.elim
  | redis c =>
    rcases h with ⟨-, rfl⟩ | ⟨-, -, redis, rfl, -⟩
    · exact ⟨rfl, rfl⟩
    · exact ⟨rfl, rfl⟩
  | verifyPassword p s => obtain rfl := h; exact ⟨rfl, rfl⟩
  | hashPassword p => obtain rfl := h; exact ⟨rfl, rfl⟩
  | sendVerification e t b => obtain rfl := h; exact ⟨rfl, rfl⟩
  | sendPasswordReset e t b => obtain rfl := h; exact ⟨rfl, rfl⟩

/-- A program of such requests changes neither. -/
lemma leavesDb_of_exec {p : Action ε α} (hp : p.All Req.LeavesDb) {r : Except ε α}
    (h : p.Exec (Env F) w r w') : w'.db = w.db ∧ w'.now = w.now := by
  refine h.rel (R := fun w w' : World => w'.db = w.db ∧ w'.now = w.now) (fun _ => ⟨rfl, rfl⟩) ?_
    (fun _ _ _ _ hq hE => hq.env hE) hp
  intro w₁ w₂ w₃ h₁₂ h₂₃
  exact ⟨h₂₃.1.trans h₁₂.1, h₂₃.2.trans h₁₂.2⟩

/-- A statement that returned. -/
lemma exec_execute_db {u : Update} {f : SqlxError → ε} {a : u.Res}
    (h : ((execute u).mapErr f).Exec (Env F) w (.ok a) w') :
    u.exec w.now w.db = .ok (a, w'.db) ∧ w'.now = w.now := by
  obtain ⟨db, hx, rfl⟩ := exec_execute_ok.mp (Prog.exec_mapErr_ok.mp h)
  exact ⟨hx, rfl⟩

/-- A statement that returned, followed by requests that leave the database alone. -/
lemma exec_execute_then {u : Update} {f : SqlxError → ε} {k : u.Res → Action ε β} {b : β}
    (hk : ∀ a, (k a).All Req.LeavesDb)
    (h : ((execute u).mapErr f >>= k).Exec (Env F) w (.ok b) w') :
    ∃ a, u.exec w.now w.db = .ok (a, w'.db) ∧ w'.now = w.now := by
  obtain ⟨a, w₁, hp, hrest⟩ := Prog.exec_bind_ok.mp h
  obtain ⟨hx, hnow⟩ := exec_execute_db hp
  obtain ⟨hdb, hnow'⟩ := leavesDb_of_exec (hk a) hrest
  rw [← hdb] at hx
  exact ⟨a, hx, hnow'.trans hnow⟩

end Leaves

/-! ## Operations that returned -/

section Store

variable {F : Req → Prop} {w w' : World} {connected : Bool}

/-- A session was created over the database. -/
lemma PgSessionStore.exec_createWithKind {u : UserId} {expiresAt : Time} {kind : SessionKind}
    {pairId : Option Uuid} {token : SessionToken}
    (h : (createWithKind u expiresAt kind pairId).Exec (Env F) w (.ok token) w') :
    ∃ id, insertSession id token u kind.asStr pairId expiresAt w.now w.db = .ok ((), w'.db) ∧
      w'.now = w.now := by
  obtain ⟨t, w₁, ht, h⟩ := Prog.exec_bind_ok.mp h
  obtain ⟨_, ht, rfl⟩ := exec_newUuid.mp ht
  obtain ⟨id, w₂, hid, h⟩ := Prog.exec_bind_ok.mp h
  obtain ⟨_, hid, rfl⟩ := exec_newUuid.mp hid
  obtain ⟨r, w₃, hx, h⟩ := Prog.exec_bind_ok.mp h
  obtain ⟨hx, hnow⟩ := exec_execute_db hx
  obtain ⟨htoken, rfl⟩ := Prog.exec_pure.mp h
  obtain rfl := Except.ok.inj htoken
  exact ⟨id, hx, hnow⟩

namespace CachedSessionStore

/-- Caching a session leaves the database alone. -/
lemma leavesDb_writeCache (token : SessionToken) (session : Session) :
    (writeCache connected token session).All Req.LeavesDb := all_writeCache _ _ _ trivial

/-- Dropping cache entries leaves the database alone. -/
lemma leavesDb_invalidateActiveTokens (u : UserId) :
    (invalidateActiveTokens connected u).All Req.LeavesDb :=
  all_invalidateActiveTokens _ _ trivial fun _ => trivial

end CachedSessionStore

namespace SessionBackend

variable {backend : SessionBackend}

/-- **A session was created**, whichever the store. -/
lemma exec_createWithKind {u : UserId} {expiresAt : Time} {kind : SessionKind}
    {pairId : Option Uuid} {token : SessionToken}
    (h : (backend.store.createWithKind u expiresAt kind pairId).Exec (Env F) w (.ok token) w') :
    ∃ id, insertSession id token u kind.asStr pairId expiresAt w.now w.db = .ok ((), w'.db) ∧
      w'.now = w.now := by
  cases backend with
  | database => exact PgSessionStore.exec_createWithKind h
  | cached connected =>
    obtain ⟨t, w₁, ht, hrest⟩ := Prog.exec_bind_ok.mp h
    obtain ⟨id, hx, hnow⟩ := PgSessionStore.exec_createWithKind ht
    have hquiet : token = t ∧ w'.db = w₁.db ∧ w'.now = w₁.now := by
      split at hrest
      · obtain ⟨r, w₂, hwrite, hrest⟩ := Prog.exec_bind_ok.mp hrest
        obtain ⟨htoken, rfl⟩ := Prog.exec_pure.mp hrest
        have hwrite := leavesDb_of_exec (CachedSessionStore.leavesDb_writeCache _ _).attempt hwrite
        exact ⟨Except.ok.inj htoken, hwrite⟩
      · obtain ⟨htoken, rfl⟩ := Prog.exec_pure.mp hrest
        exact ⟨Except.ok.inj htoken, rfl, rfl⟩
    obtain ⟨rfl, hdb, hnow'⟩ := hquiet
    rw [← hdb] at hx
    exact ⟨id, hx, hnow'.trans hnow⟩

/-- **Snapshots were replaced**, whichever the store. -/
lemma exec_updateMemberships {token : SessionToken} {l : List MembershipSnapshot}
    (h : (backend.store.updateMemberships token l).Exec (Env F) w (.ok ()) w') :
    setSessionMemberships token (MembershipSnapshot.encode l) w.now w.db = .ok ((), w'.db) ∧
      w'.now = w.now := by
  cases backend with
  | database => exact exec_execute_db h
  | cached connected =>
    have hrest : ∀ _ : Unit, (do
        let _ ← (CachedSessionStore.invalidateCache connected token).attempt
        return () : Action SessionError Unit).All Req.LeavesDb := fun _ =>
      (CachedSessionStore.all_invalidateCache _ _ trivial).attempt.bind fun _ => Prog.all_pure _
    obtain ⟨_, hx, hnow⟩ := exec_execute_then (u := .setMemberships token l) hrest h
    exact ⟨hx, hnow⟩

/-- **An event was handled**, whichever the store. -/
lemma exec_handleMembershipEvent {e : MembershipEvent}
    (h : (SessionCoordinator.handleMembershipEvent ⟨true, backend.store⟩ e).Exec (Env F) w (.ok ()) w') :
    ∃ r, e.statement.exec w.now w.db = .ok (r, w'.db) ∧ w'.now = w.now := by
  -- whatever the store, the operation of the event is its statement and maybe a `DEL`
  have hrun : ∀ {u : Update} {k : u.Res → Action SessionError Unit} {w₁ : World},
      (∀ a, (k a).All Req.LeavesDb) →
      ((execute u).mapErr SessionError.ofSqlx >>= k).Exec (Env F) w₁ (.ok ()) w' →
      ∃ r, u.exec w₁.now w₁.db = .ok (r, w'.db) ∧ w'.now = w₁.now := fun hk h => exec_execute_then hk h
  have hstale := fun (connected : Bool) (u : UserId) (_ : Unit) =>
    @CachedSessionStore.leavesDb_invalidateActiveTokens connected u
  have hsnapshot : ∀ {t u role} {s : MembershipSnapshot} {w₁ : World},
      (SessionCoordinator.snapshotOf t u role).Exec (Env F) w (.ok s) w₁ →
      s = ⟨t.inner, role⟩ ∧ w₁ = w := by
    intro t u role s w₁ hs
    refine Prog.Ensures.of_exec (Q := fun r w₁ => ∀ s, r = .ok s → s = ⟨t.inner, role⟩ ∧ w₁ = w)
      (SessionCoordinator.ensures_snapshotOf ?_) hs s rfl
    intro s hs
    exact ⟨(Except.ok.inj hs).symm, rfl⟩
  cases e with
  | added t u role =>
    obtain ⟨s, w₁, hs, hx⟩ := Prog.exec_bind_ok.mp (Prog.exec_mapErr_ok.mp h)
    obtain ⟨rfl, rfl⟩ := hsnapshot hs
    cases backend with
    | database => exact ⟨(), exec_execute_db hx⟩
    | cached connected => exact hrun (hstale connected u) hx
  | updated t u role =>
    obtain ⟨s, w₁, hs, hx⟩ := Prog.exec_bind_ok.mp (Prog.exec_mapErr_ok.mp h)
    obtain ⟨rfl, rfl⟩ := hsnapshot hs
    cases backend with
    | database => exact ⟨(), exec_execute_db hx⟩
    | cached connected => exact hrun (hstale connected u) hx
  | removed t u =>
    have hx := Prog.exec_mapErr_ok.mp h
    cases backend with
    | database => exact ⟨(), exec_execute_db hx⟩
    | cached connected => exact hrun (hstale connected u) hx

end SessionBackend

end Store

end Klynt
