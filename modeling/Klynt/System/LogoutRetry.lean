import Klynt.Service.Session

set_option relaxedAutoImplicit false
set_option autoImplicit false

/-!
# A logout that fails and is tried again

A logout validates the token that is presented, deletes its session, and then deletes the other
session of the pair.  If the last call fails, the presented token is gone, and no second attempt
gets past its validation.

## Main definitions

* `Db.validSession` — what a token is validated to.
* `Db.InPair` — the sessions of the pair of a token.
* `LogoutRetried` — what a failed logout should leave.

## Main results

* `logout_retried_iff` — a failed logout can be tried again exactly if the session of the token has
  no pair.
* `logout_not_retried` — of a pair one session stays, and the logout cannot be repeated.
-/

namespace Klynt

open SessionService

/-! ## Validation -/

/-- What a token is validated to. -/
def Db.validSession (db : Db) (now : Time) (token : SessionToken) : Option Session :=
  (db.sessions.find? fun s => s.token = token ∧ s.active now).bind (·.toSession.toOption)

section Validation

variable {config : SessionConfig} {F : Req → Prop} {w w' : World} {token : SessionToken}

/-- A row of the token, of which a session was validated. -/
lemma Db.exists_row_of_validSession {db : Db} {now : Time} {session : Session}
    (h : db.validSession now token = some session) :
    ∃ row ∈ db.sessions, row.token = token ∧ row.pairId = session.pairId := by
  obtain ⟨row, hfind, hsession⟩ := Option.bind_eq_some_iff.mp h
  have htoken := (of_decide_eq_true (List.find?_eq_some_iff_append.mp hfind).1).1
  cases hto : row.toSession with
  | error e =>
    rw [hto] at hsession
    cases hsession
  | ok session' =>
    rw [hto] at hsession
    obtain rfl := Option.some.inj hsession
    exact ⟨row, List.mem_of_find?_eq_some hfind, htoken, (SessionRow.toSession_ok hto).2.2.2.2.symm⟩

/-- A token that is validated. -/
lemma exec_validate_ok {session : Session} :
    (validate ⟨config, PgSessionStore.store⟩ token).Exec (Env F) w (.ok session) w' ↔
      w.db.validSession w.now token = some session ∧ w' = w := by
  have hfind : ∀ found w₁, (PgSessionStore.findValid token).Exec (Env F) w (.ok found) w₁ ↔
      (w.db.sessions.find? fun s => s.token = token ∧ s.active w.now).elim (.ok none)
        (fun row => row.toSession.map some) = Except.ok found ∧ w₁ = w := by
    intro found w₁
    unfold PgSessionStore.findValid
    rw [Prog.exec_bind_ok]
    constructor
    · rintro ⟨(row : Option SessionRow), w₂, hrow, hrest⟩
      obtain ⟨rfl, rfl⟩ := exec_select_ok.mp (Prog.exec_mapErr_ok.mp hrow)
      dsimp only [Query.exec] at hrest
      cases hrow : w₂.db.sessions.find? fun s => s.token = token ∧ s.active w₂.now with
      | some row =>
        rw [hrow] at hrest
        exact ⟨hrest.1.symm, hrest.2⟩
      | none =>
        rw [hrow] at hrest
        exact ⟨hrest.1.symm, hrest.2⟩
    · rintro ⟨hfound, rfl⟩
      refine ⟨_, _, Prog.exec_mapErr_ok.mpr (exec_select_ok.mpr ⟨rfl, rfl⟩), ?_⟩
      dsimp only [Query.exec]
      cases hrow : w₁.db.sessions.find? fun s => s.token = token ∧ s.active w₁.now with
      | some row =>
        rw [hrow] at hfound
        exact ⟨hfound.symm, rfl⟩
      | none =>
        rw [hrow] at hfound
        exact ⟨hfound.symm, rfl⟩
  unfold SessionService.validate
  rw [Prog.exec_bind_ok]
  unfold Db.validSession
  constructor
  · rintro ⟨found, w₁, hfound, hsome⟩
    obtain ⟨hrow, rfl⟩ := (hfind found w₁).mp (Prog.exec_mapErr_ok.mp hfound)
    obtain ⟨⟨_, rfl, hok⟩ | ⟨-, herr⟩, rfl⟩ := Prog.exec_ofOption.mp hsome
    · obtain rfl := Except.ok.inj hok
      cases hstored : w'.db.sessions.find? fun s => s.token = token ∧ s.active w'.now with
      | none =>
        rw [hstored] at hrow
        cases hrow
      | some row =>
        rw [hstored, Option.elim_some] at hrow
        cases hto : row.toSession with
        | error e =>
          rw [hto] at hrow
          cases hrow
        | ok session' =>
          rw [hto] at hrow
          rw [Option.bind_some, hto]
          exact ⟨Except.ok.inj hrow, rfl⟩
    · cases herr
  · rintro ⟨hsession, rfl⟩
    obtain ⟨row, hrow, hto⟩ := Option.bind_eq_some_iff.mp hsession
    refine ⟨some session, w', Prog.exec_mapErr_ok.mpr ((hfind _ _).mpr ⟨?_, rfl⟩), rfl, rfl⟩
    rw [hrow, Option.elim_some]
    cases hrow' : row.toSession with
    | error e => rw [hrow'] at hto; cases hto
    | ok session' =>
      rw [hrow'] at hto
      exact congrArg Except.ok hto

/-- A token that is not validated leaves everything as it is. -/
lemma exec_validate_error {e : SessionServiceError}
    (h : (validate ⟨config, PgSessionStore.store⟩ token).Exec (Env F) w (.error e) w') :
    w' = w := by
  have hreads : (validate ⟨config, PgSessionStore.store⟩ token).Reads (Env F) w fun _ => True := by
    have hfind : (PgSessionStore.findValid token).Reads (Env F) w fun _ => True := by
      refine (reads_select _).mapErr.bind fun (found : Option SessionRow) _ => ?_
      cases found with
      | none => exact (Prog.reads_pure _).mono fun _ _ => trivial
      | some row => exact (Prog.reads_done _).mono fun _ _ => trivial
    exact hfind.mapErr.bind fun found _ => (Prog.reads_ofOption _ _).mono fun _ _ => trivial
  exact (hreads.of_exec h).1

end Validation

/-! ## The second attempt -/

/-- The session of the token and those that share its pair. -/
def Db.InPair (db : Db) (token : SessionToken) (row : SessionRow) : Prop :=
  row.token = token ∨
    ∃ presented ∈ db.sessions, presented.token = token ∧ presented.pairId.isSome ∧
      row.pairId = presented.pairId

/-- What a failed logout should leave: all sessions, or a state where a second attempt, at any
later time and with a healthy store, returns and leaves no valid session of the pair. -/
def LogoutRetried (config : SessionConfig) (w : World) (token : SessionToken) (w' : World) : Prop :=
  w'.db.sessions = w.db.sessions ∨
    ∀ later, w'.now ≤ later → ∀ r w'',
      (invalidatePair ⟨config, PgSessionStore.store⟩ token).Exec (Env noFault)
        { w' with now := later } r w'' →
      r = .ok () ∧ ∀ row ∈ w''.db.sessions, w.db.InPair token row → row.active later = false

section Attempts

variable {config : SessionConfig} {w : World} {token : SessionToken}

/-- A logout of a session without a pair that fails has removed nothing. -/
lemma sessions_of_failed {F : Req → Prop} {w' : World} {e : SessionServiceError}
    (hpair : ∀ session, w.db.validSession w.now token = some session → session.pairId = none)
    (h : (invalidatePair ⟨config, PgSessionStore.store⟩ token).Exec (Env F) w (.error e) w') :
    w'.db.sessions = w.db.sessions := by
  rcases Prog.exec_bind.mp h with ⟨session, w₁, hvalid, hrest⟩ | ⟨_, -, hvalid⟩
  · obtain ⟨hsession, rfl⟩ := exec_validate_ok.mp hvalid
    rw [hpair session hsession] at hrest
    rcases Prog.exec_bind.mp hrest with ⟨_, w₂, -, hdone⟩ | ⟨_, -, hrevoke⟩
    · exact nomatch (Prog.exec_pure.mp hdone).1
    · obtain ⟨r₁, hrevoke, hr₁⟩ := Prog.exec_mapErr.mp hrevoke
      obtain ⟨r₂, hdelete, rfl⟩ := Prog.exec_mapErr.mp hrevoke
      cases r₂ with
      | ok _ => cases hr₁
      | error _ =>
        obtain rfl := (writes_execute (.deleteSession token)).of_exec hdelete
        rfl
  · rw [exec_validate_error hvalid]

/-- The world after the session of a token was deleted. -/
def World.withoutSession (w : World) (token : SessionToken) : World :=
  { w with db := { w.db with sessions := w.db.sessions.filter (·.token ≠ token) } }

/-- A deleted session is not validated, at any time. -/
lemma validSession_withoutSession (w : World) (token : SessionToken) (later : Time) :
    (w.withoutSession token).db.validSession later token = none := by
  unfold Db.validSession
  rw [Option.bind_eq_none_iff]
  intro row hrow
  have hmem := List.mem_of_find?_eq_some hrow
  have htoken := (of_decide_eq_true (List.find?_eq_some_iff_append.mp hrow).1).1
  exact absurd htoken (of_decide_eq_true (List.mem_filter.mp hmem).2)

variable (config) in
/-- A logout of a session with a pair can fail after it has deleted the session. -/
lemma exec_invalidatePair_late {session : Session} {pairId : Uuid}
    (hsession : w.db.validSession w.now token = some session)
    (hpair : session.pairId = some pairId) :
    ∃ e, (invalidatePair ⟨config, PgSessionStore.store⟩ token).Exec (Env anyFault) w (.error e)
      (w.withoutSession token) := by
  have hrevoke : ((PgSessionStore.revoke token).mapErr SessionServiceError.ofStore).Exec
      (Env anyFault) w (.ok ()) (w.withoutSession token) :=
    Prog.exec_mapErr_ok.mpr (Prog.exec_mapErr_ok.mpr (exec_execute_ok.mpr ⟨_, rfl, rfl⟩))
  have hfault : (execute (.deletePair pairId token)).Exec (Env anyFault) (w.withoutSession token)
      (.error (.other "")) (w.withoutSession token) :=
    ⟨_, _, .inr (.inr ⟨trivial, ⟨_, rfl⟩, rfl⟩), rfl, rfl⟩
  refine ⟨.ofStore (.ofSqlx (.other "")),
    Prog.exec_bind.mpr (.inl ⟨session, w, exec_validate_ok.mpr ⟨hsession, rfl⟩, ?_⟩)⟩
  refine Prog.exec_bind.mpr (.inl ⟨(), _, hrevoke, ?_⟩)
  rw [hpair]
  exact Prog.exec_mapErr.mpr ⟨_, Prog.exec_mapErr.mpr ⟨_, hfault, rfl⟩, rfl⟩

end Attempts

/-- **A failed logout can be tried again** exactly if the token is not validated to a session with
a pair.

**Proof sketch.** Without a pair, the only call that deletes is the last one, and if it fails
nothing is deleted.  With a pair, the call that deletes the rest of the pair may fail; the session
of the token is gone then, so a second attempt fails at the validation. -/
theorem logout_retried_iff (config : SessionConfig) (w : World) (token : SessionToken) :
    (∀ e w', (invalidatePair ⟨config, PgSessionStore.store⟩ token).Exec (Env anyFault) w
        (.error e) w' → LogoutRetried config w token w') ↔
      ∀ session, w.db.validSession w.now token = some session → session.pairId = none := by
  constructor
  · intro h session hsession
    cases hpair : session.pairId with
    | none => rfl
    | some pairId =>
      obtain ⟨e, hfailed⟩ := exec_invalidatePair_late config hsession hpair
      rcases h e _ hfailed with hsame | hretry
      · obtain ⟨row, hrow, htoken, -⟩ := Db.exists_row_of_validSession hsession
        rw [← hsame] at hrow
        exact absurd htoken (of_decide_eq_true (List.mem_filter.mp hrow).2)
      · obtain ⟨hok, -⟩ := hretry w.now le_rfl _ _ (exec_answer rfl)
        have hagain := exec_answer (F := noFault) hok
        obtain ⟨session', _, hvalid, -⟩ := Prog.exec_bind_ok.mp hagain
        have hnone := validSession_withoutSession w token w.now
        rw [(exec_validate_ok.mp hvalid).1] at hnone
        cases hnone
  · intro hpair e w' h
    exact .inl (sessions_of_failed hpair h)

/-! ## Evaluation -/

namespace Scenario

/-- The token of the access session of a login. -/
def accessToken : SessionToken := ⟨BitVec.ofNat 128 501⟩

/-- The token of its refresh session. -/
def refreshToken : SessionToken := ⟨BitVec.ofNat 128 502⟩

/-- A session of Ada's in the pair numbered 500. -/
def pairedRow (id : Nat) (token : SessionToken) (kind : SessionKind) : SessionRow :=
  { id := BitVec.ofNat 128 id, token, userId := ⟨BitVec.ofNat 128 901⟩, expiresAt := days 1,
    createdAt := 0, tenantMemberships := Json.emptyArray, kind := kind.asStr,
    pairId := some (BitVec.ofNat 128 500) }

/-- Ada has logged in. -/
def pairedWorld : World :=
  { world with
    db := { db with sessions := [pairedRow 503 accessToken .access,
      pairedRow 504 refreshToken .refresh] } }

end Scenario

/-- **A logout that cannot be tried again.**  The last call of a logout fails: the refresh session
stays valid, and every further logout with the access token is refused. -/
theorem logout_not_retried :
    ∃ e w', (invalidatePair ⟨{}, PgSessionStore.store⟩ Scenario.accessToken).Exec (Env anyFault)
        Scenario.pairedWorld (.error e) w' ∧
      w'.db.sessions ≠ Scenario.pairedWorld.db.sessions ∧
      (∃ row ∈ w'.db.sessions, Scenario.pairedWorld.db.InPair Scenario.accessToken row ∧
        row.active w'.now = true) ∧
      ∀ later w'', ¬ (invalidatePair ⟨{}, PgSessionStore.store⟩ Scenario.accessToken).Exec
        (Env noFault) { w' with now := later } (.ok ()) w'' := by
  obtain ⟨session, hsession, hpair⟩ : ∃ session, Scenario.pairedWorld.db.validSession
      Scenario.pairedWorld.now Scenario.accessToken = some session ∧
      session.pairId = some (BitVec.ofNat 128 500) := by
    have hpair : (Scenario.pairedWorld.db.validSession Scenario.pairedWorld.now
        Scenario.accessToken).map (·.pairId) = some (some (BitVec.ofNat 128 500)) := by
      decide +kernel
    exact Option.map_eq_some_iff.mp hpair
  obtain ⟨e, hfailed⟩ := exec_invalidatePair_late {} hsession hpair
  refine ⟨e, _, hfailed, ?_, ?_, ?_⟩
  · intro hsame
    have hlength := congrArg List.length hsame
    revert hlength
    decide +kernel
  · refine ⟨Scenario.pairedRow 504 Scenario.refreshToken .refresh, ?_, .inr ?_, by decide +kernel⟩
    · exact List.mem_filter.mpr ⟨List.mem_cons_of_mem _ List.mem_cons_self, by decide +kernel⟩
    · exact ⟨_, List.mem_cons_self, rfl, rfl, rfl⟩
  · intro later w'' hagain
    obtain ⟨session', _, hvalid, -⟩ := Prog.exec_bind_ok.mp hagain
    have hnone := validSession_withoutSession Scenario.pairedWorld Scenario.accessToken later
    rw [(exec_validate_ok.mp hvalid).1] at hnone
    cases hnone

end Klynt
