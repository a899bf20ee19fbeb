import Klynt.System.LoginEffect
import Klynt.System.StoreRun

set_option relaxedAutoImplicit false
set_option autoImplicit false

/-!
# What a validated access token says

Any number of clients call the session service and the store over the database at the same time,
while time passes.  The rows of the table of sessions are those that some client inserted and no
later statement deleted, so a token that validates was minted for the user it validates for, and
nothing that revokes it has taken effect since.

## Main definitions

* `SessionCall`, `SessionCall.run` — the calls of the service and of the store.
* `SessionCall.Creates`, `SessionCall.Revokes` — which calls mint a session or delete a token.
* `Req.Closes`, `Req.Mints` — the statements that end or start a session.
* `SessionLedger` — the table of sessions agrees with a log.

## Main results

* `SessionLedger.step` — every statement of a call keeps the table in agreement with the log.
* `access_validation_sound` — what a validated token says, and whose sessions a revocation by id
  removes.
-/

namespace Klynt

/-! ## Calls -/

/-- Calls of the session service and of the session store. -/
inductive SessionCall where
  /-- `SessionService::create`. -/
  | create (u : UserId)
  /-- `SessionService::create_access`. -/
  | createAccess (u : UserId) (rememberMe : Bool) (pairId : Option Uuid)
  /-- `SessionService::create_refresh`. -/
  | createRefresh (u : UserId) (pairId : Option Uuid)
  /-- `SessionService::create_with_kind`. -/
  | createWithKind (u : UserId) (kind : SessionKind) (pairId : Option Uuid)
  /-- `SessionService::validate`. -/
  | validate (token : SessionToken)
  /-- `SessionService::validate_access`. -/
  | validateAccess (token : SessionToken)
  /-- `SessionService::invalidate`. -/
  | invalidate (token : SessionToken)
  /-- An operation of the store, or `SessionService::invalidate_pair`. -/
  | store (op : StoreOp)

/-- A statement that ends a session with a given token and pair. -/
def Req.Closes (token : SessionToken) (pairId : Option Uuid) : Req → Prop
  | .update (.deleteSession token') => token' = token
  | .update (.deletePair pairId' exceptToken) => pairId = some pairId' ∧ token ≠ exceptToken
  | _ => False

/-- A statement that inserts a session with a given token. -/
def Req.Mints (token : SessionToken) : Req → Prop
  | .update (.insertSession _ token' _ _ _ _) => token' = token
  | _ => False

/-- A statement that had its effect. -/
def TookEffect (e : Prog.Event Req Ans) : Prop :=
  ∃ (u : Update) (r : u.Res), e = ⟨.update u, (.ok r : Except SqlxError u.Res)⟩

/-- A UUID that was generated. -/
def uuidEvent (u : Uuid) : Prog.Event Req Ans := ⟨.uuid, u⟩

/-- The token of an active session that was looked up by its id. -/
def resolvedEvent (u : UserId) (id : Uuid) (token : SessionToken) : Prog.Event Req Ans :=
  ⟨.query (.activeTokenById u id), (.ok (some token) : Except SqlxError (Option SessionToken))⟩

/-- A session that was inserted. -/
def mintedEvent (id : Uuid) (token : SessionToken) (u : UserId) (kind : SessionKind)
    (pairId : Option Uuid) (expiresAt : Time) : Prog.Event Req Ans :=
  ⟨.update (.insertSession id token u kind pairId expiresAt), (.ok () : Except SqlxError Unit)⟩

namespace SessionCall

/-- The call, without its value. -/
def run (service : SessionService) : SessionCall → Action Unit Unit
  | create u => (service.create u).forget
  | createAccess u rememberMe pairId => (service.createAccess u rememberMe pairId).forget
  | createRefresh u pairId => (service.createRefresh u pairId).forget
  | createWithKind u kind pairId => (service.createWithKind u kind pairId).forget
  | validate token => (service.validate token).forget
  | validateAccess token => (service.validateAccess token).forget
  | invalidate token => (service.invalidate token).forget
  | store op => op.run service.store

/-- The call creates sessions of a kind for a user and a pair. -/
def Creates (u : UserId) (kind : SessionKind) (pairId : Option Uuid) : SessionCall → Prop
  | create u' => u' = u ∧ kind = .access ∧ pairId = none
  | createAccess u' rememberMe pairId' =>
    u' = u ∧ kind = (if rememberMe then .longLived else .access) ∧ pairId' = pairId
  | createRefresh u' pairId' => u' = u ∧ kind = .refresh ∧ pairId' = pairId
  | createWithKind u' kind' pairId' => u' = u ∧ kind' = kind ∧ pairId' = pairId
  | store (.createWithKind u' _ kind' pairId') => u' = u ∧ kind' = kind ∧ pairId' = pairId
  | _ => False

/-- The call revokes a token: the one it was given, or the one it has found by the id. -/
def Revokes (h : List (Prog.Event Req Ans)) (token : SessionToken) : SessionCall → Prop
  | invalidate token' => token' = token
  | store (.revoke token') => token' = token
  | store (.revokeById u id) => resolvedEvent u id token ∈ h
  | store (.invalidatePair token') => token' = token
  | _ => False

/-- The call revokes the sessions of a pair but one. -/
def RevokesPair (pairId : Uuid) (exceptToken : SessionToken) : SessionCall → Prop
  | store (.revokePair pairId' exceptToken') => pairId' = pairId ∧ exceptToken' = exceptToken
  | store (.invalidatePair token) => token = exceptToken
  | _ => False

/-- The call edits snapshots. -/
def Edits : SessionCall → Prop
  | store (.updateMemberships _ _) | store (.addMembership _ _)
  | store (.updateMembershipForUser _ _) | store (.removeMembership _ _) => True
  | _ => False

/-- What a call may request, given what it has seen. -/
def May (call : SessionCall) (h : List (Prog.Event Req Ans)) : Req → Prop
  | .update (.insertSession _ token u kind pairId _) => call.Creates u kind pairId ∧
      uuidEvent token.inner ∈ h ∧ ∀ e ∈ h, ∀ token', ¬ e.1.Mints token'
  | .update (.deleteSession token) => call.Revokes h token
  | .update (.deletePair pairId exceptToken) => call.RevokesPair pairId exceptToken
  | .update u => u.Quiet ∧ call.Edits
  | .transaction _ => False
  | _ => True

/-! ### What a call requests -/

section Traced

variable {call : SessionCall} {service : SessionService} {h : List (Prog.Event Req Ans)}

/-- The store inserts one session, under a token that was generated for it. -/
lemma traced_insert {u : UserId} {expiresAt : Time} {kind : SessionKind} {pairId : Option Uuid}
    (hcall : call.Creates u kind pairId) (hfirst : ∀ e ∈ h, ∀ token, ¬ e.1.Mints token) :
    (PgSessionStore.createWithKind u expiresAt kind pairId).Traced call.May (fun _ _ => True) h := by
  refine Prog.wp_bind.mpr (Prog.wp_ask.mpr ⟨trivial, ?_⟩)
  rintro token _ rfl
  refine Prog.wp_done.mpr (Prog.wp_bind.mpr (Prog.wp_ask.mpr ⟨trivial, ?_⟩))
  rintro id _ rfl
  refine Prog.wp_done.mpr (Prog.wp_bind.mpr (Prog.wp_mapErr.mpr (Prog.wp_ask.mpr ⟨?_, ?_⟩)))
  · refine ⟨hcall, List.mem_cons_of_mem _ List.mem_cons_self, fun e he token' hmint => ?_⟩
    rcases List.mem_cons.mp he with rfl | he
    · exact hmint
    · rcases List.mem_cons.mp he with rfl | he
      · exact hmint
      · exact hfirst e he token' hmint
  · rintro a _ rfl
    refine Prog.wp_done.mpr ?_
    cases a with
    | error e => trivial
    | ok _ => exact Prog.wp_pure.mpr trivial

/-- The service inserts one session. -/
lemma traced_createWithKind {config : SessionConfig} {u : UserId} {kind : SessionKind}
    {pairId : Option Uuid} (hcall : call.Creates u kind pairId) :
    (SessionService.createWithKind ⟨config, PgSessionStore.store⟩ u kind pairId).forget.Traced
      call.May (fun _ _ => True) [] := by
  refine Prog.wp_forget.mpr (Prog.wp_bind.mpr (Prog.wp_ask.mpr ⟨trivial, ?_⟩))
  rintro t _ rfl
  refine Prog.wp_done.mpr (Prog.wp_bind.mpr (Prog.wp_mapErr.mpr ?_))
  refine (traced_insert hcall fun e he token => ?_).mono fun r h _ => ?_
  · obtain rfl := List.mem_singleton.mp he
    exact id
  · cases r with
    | error e => trivial
    | ok token => exact Prog.wp_pure.mpr trivial

/-- Requests that a call may always issue. -/
lemma traced_of_all {ε α : Type} {p : Action ε α} (hp : p.All fun q => ∀ h, call.May h q) :
    p.forget.Traced call.May (fun _ _ => True) h :=
  Prog.wp_forget.mpr (hp.wp (Prog.ensures_iff.mpr fun _ _ _ => trivial))

/-- Validating a token reads only. -/
lemma all_validate {config : SessionConfig} (token : SessionToken) :
    (SessionService.validate ⟨config, PgSessionStore.store⟩ token).All fun q => ∀ h, call.May h q := by
  refine Prog.All.bind (Prog.All.mapErr ?_) fun _ => Prog.all_ofOption _ _
  refine (all_select fun _ => trivial).mapErr.bind fun (found : Option SessionRow) => ?_
  cases found with
  | none => exact Prog.all_pure _
  | some row => exact Prog.all_done _

/-- An edit of snapshots. -/
lemma all_edit {u : Update} (hu : ∀ h, call.May h (.update u)) :
    ((execute u).mapErr SessionError.ofSqlx).All fun q => ∀ h, call.May h q :=
  (all_execute hu).mapErr

/-- **A call keeps to what it may request.** -/
lemma traced (call : SessionCall) (config : SessionConfig) :
    (call.run ⟨config, PgSessionStore.store⟩).Traced call.May (fun _ _ => True) [] := by
  cases call with
  | create u => exact traced_createWithKind ⟨rfl, rfl, rfl⟩
  | createAccess u rememberMe pairId => exact traced_createWithKind ⟨rfl, rfl, rfl⟩
  | createRefresh u pairId => exact traced_createWithKind ⟨rfl, rfl, rfl⟩
  | createWithKind u kind pairId => exact traced_createWithKind ⟨rfl, rfl, rfl⟩
  | validate token => exact traced_of_all (all_validate token)
  | validateAccess token =>
    refine traced_of_all (Prog.All.bind (all_validate token) fun session => ?_)
    split
    · exact Prog.all_pure _
    · exact Prog.all_fail _
  | invalidate token => exact traced_of_all ((all_execute fun _ => rfl).mapErr.mapErr)
  | store op =>
    cases op with
    | createWithKind u expiresAt kind pairId =>
      have hcall : (SessionCall.store (.createWithKind u expiresAt kind pairId)).Creates u kind
          pairId := ⟨rfl, rfl, rfl⟩
      exact Prog.wp_forget.mpr ((traced_insert hcall fun e he => absurd he List.not_mem_nil).mono
        fun _ _ _ => trivial)
    | findValid token =>
      refine traced_of_all ?_
      refine (all_select fun _ => trivial).mapErr.bind fun (found : Option SessionRow) => ?_
      cases found with
      | none => exact Prog.all_pure _
      | some row => exact Prog.all_done _
    | revoke token => exact traced_of_all (all_edit fun _ => rfl)
    | revokeById u id =>
      refine Prog.wp_forget.mpr (Prog.wp_bind.mpr (Prog.wp_bind.mpr (Prog.wp_mapErr.mpr
        (Prog.wp_ask.mpr ⟨trivial, ?_⟩))))
      rintro a _ rfl
      refine Prog.wp_done.mpr ?_
      rcases a with e | _ | token
      · trivial
      · exact Prog.wp_ofOption.mpr ⟨fun _ h => (by cases h), fun _ => trivial⟩
      · refine Prog.wp_ofOption.mpr ⟨fun token' htoken => ?_, fun h => (by cases h)⟩
        obtain rfl := Option.some.inj htoken
        refine Prog.wp_mapErr.mpr (Prog.wp_ask.mpr ⟨?_, fun _ _ _ => Prog.wp_done.mpr trivial⟩)
        exact List.mem_cons_self
    | revokePair pairId exceptToken => exact traced_of_all (all_edit fun _ => ⟨rfl, rfl⟩)
    | listActiveByUser u =>
      exact traced_of_all ((all_select fun _ => trivial).mapErr.bind fun (_ : List SessionRow) =>
        Prog.all_pure _)
    | updateMemberships token snapshots => exact traced_of_all (all_edit fun _ => ⟨trivial, trivial⟩)
    | addMembership u snapshot => exact traced_of_all (all_edit fun _ => ⟨trivial, trivial⟩)
    | updateMembershipForUser u snapshot => exact traced_of_all (all_edit fun _ => ⟨trivial, trivial⟩)
    | removeMembership u t => exact traced_of_all (all_edit fun _ => ⟨trivial, trivial⟩)
    | invalidatePair token =>
      refine traced_of_all (Prog.All.bind (all_validate token) fun session => ?_)
      refine Prog.All.bind (Prog.All.mapErr (all_edit fun _ => rfl)) fun _ => ?_
      cases session.pairId with
      | none => exact Prog.all_pure _
      | some pairId => exact Prog.All.mapErr (all_edit fun _ => rfl)

end Traced

end SessionCall

/-! ## Tables and logs -/

/-- A statement since when the session with a given token and pair stands: none that took effect
since has ended it or inserted its token again. -/
def Untouched {ι : Type} (token : SessionToken) (pairId : Option Uuid)
    (newer : List (ι × Prog.Event Req Ans)) : Prop :=
  ∀ x ∈ newer, TookEffect x.2 → ¬ x.2.1.Closes token pairId ∧ ¬ x.2.1.Mints token

/-- The table of sessions agrees with a log: every row was inserted and stands since, and no token
is stored twice. -/
structure SessionLedger {ι : Type} (log : List (ι × Prog.Event Req Ans))
    (sessions : List SessionRow) : Prop where
  /-- Every row was inserted, and nothing has ended it since. -/
  minted : ∀ row ∈ sessions, ∃ kind newer i older, row.kind = kind.asStr ∧
    log = newer ++
      (i, mintedEvent row.id row.token row.userId kind row.pairId row.expiresAt) :: older ∧
    Untouched row.token row.pairId newer
  /-- No token is stored twice. -/
  nodup : (sessions.map (·.token)).Nodup

section Ledger

variable {ι : Type} {log : List (ι × Prog.Event Req Ans)} {sessions sessions' : List SessionRow}
  {i : ι} {e : Prog.Event Req Ans}

/-- Rows that an event leaves, with other snapshots at most, still stand. -/
lemma SessionLedger.cons (h : SessionLedger log sessions)
    (hrows : ∀ row' ∈ sessions', ∃ row ∈ sessions, ∃ column,
      row' = { row with tenantMemberships := column })
    (hnodup : (sessions'.map (·.token)).Nodup)
    (he : TookEffect e → ∀ row ∈ sessions', ¬ e.1.Closes row.token row.pairId ∧
      ¬ e.1.Mints row.token) : SessionLedger ((i, e) :: log) sessions' where
  minted row' hrow' := by
    obtain ⟨row, hrow, column, rfl⟩ := hrows row' hrow'
    obtain ⟨kind, newer, j, older, hkind, hlog, hstands⟩ := h.minted row hrow
    refine ⟨kind, (i, e) :: newer, j, older, hkind, congrArg ((i, e) :: ·) hlog, ?_⟩
    intro x hx heffect
    rcases List.mem_cons.mp hx with rfl | hx
    · exact he heffect _ hrow'
    · exact hstands x hx heffect
  nodup := hnodup

/-- An event without effect leaves the rows as they are. -/
lemma SessionLedger.cons_same (h : SessionLedger log sessions) (he : ¬ TookEffect e) :
    SessionLedger ((i, e) :: log) sessions :=
  h.cons (fun row hrow => ⟨row, hrow, row.tenantMemberships, rfl⟩) h.nodup fun heffect =>
    absurd heffect he

/-- A session is inserted. -/
lemma SessionLedger.insert (h : SessionLedger log sessions) {row : SessionRow} {kind : SessionKind}
    (hkind : row.kind = kind.asStr) (hnew : ∀ s ∈ sessions, s.token ≠ row.token) :
    SessionLedger ((i, mintedEvent row.id row.token row.userId kind row.pairId row.expiresAt) :: log)
      (sessions ++ [row]) where
  minted row' hrow' := by
    rcases List.mem_append.mp hrow' with hrow' | hrow'
    · refine (h.cons (fun row hrow => ⟨row, hrow, row.tenantMemberships, rfl⟩) h.nodup ?_).minted
        row' hrow'
      intro _ s hs
      exact ⟨id, fun heq => hnew s hs (Eq.symm heq)⟩
    · obtain rfl := List.mem_singleton.mp hrow'
      exact ⟨kind, [], i, log, hkind, rfl, fun x hx => absurd hx List.not_mem_nil⟩
  nodup := by
    rw [List.map_append]
    refine List.nodup_append.mpr ⟨h.nodup, List.nodup_singleton _, ?_⟩
    intro x hx y hy
    obtain ⟨s, hs, rfl⟩ := List.mem_map.mp hx
    rw [List.mem_singleton.mp hy]
    exact hnew s hs

/-- A statement that inserts no session. -/
lemma SessionLedger.quiet {u : Update} (hu : u.Quiet) {now : Time} {db db' : Db} {r : u.Res}
    (h : SessionLedger log db.sessions) (hx : u.exec now db = .ok (r, db')) :
    SessionLedger ((i, ⟨.update u, (.ok r : Except SqlxError u.Res)⟩) :: log) db'.sessions := by
  refine h.cons (hu.rows hx) (hu.tokens hx h.nodup) fun _ row hrow => ?_
  cases u with
  | deleteSession token =>
    obtain ⟨-, rfl⟩ := Prod.mk.inj (Except.ok.inj hx)
    have hne := of_decide_eq_true (List.mem_filter.mp hrow).2
    exact ⟨fun heq => hne (Eq.symm heq), id⟩
  | deletePair pairId exceptToken =>
    obtain ⟨-, rfl⟩ := Prod.mk.inj (Except.ok.inj hx)
    have hkept := of_decide_eq_true (List.mem_filter.mp hrow).2
    exact ⟨hkept, id⟩
  | setMemberships token l => exact ⟨id, id⟩
  | addSnapshot u s => exact ⟨id, id⟩
  | updateSnapshot u s => exact ⟨id, id⟩
  | removeSnapshot u t => exact ⟨id, id⟩
  | _ => exact hu.elim

/-- **Every request of a call** keeps the table in agreement with the log, whatever fails. -/
theorem SessionLedger.step {call : SessionCall} {seen : List (Prog.Event Req Ans)} {F : Req → Prop}
    {w w' : World} {q : Req} {a : Ans q} (h : SessionLedger log w.db.sessions)
    (hmay : call.May seen q) (hE : Env F q w a w') :
    SessionLedger ((i, ⟨q, a⟩) :: log) w'.db.sessions := by
  by_cases hq : q.WritesDb
  · cases q with
    | update u =>
      have hfailed : ∀ e, a = .error e → w' = w →
          SessionLedger ((i, ⟨.update u, a⟩) :: log) w'.db.sessions := by
        rintro e rfl rfl
        refine h.cons_same ?_
        rintro ⟨u', r, heq⟩
        obtain rfl := Req.update.inj (Sigma.mk.inj heq).1
        cases eq_of_heq (Sigma.mk.inj heq).2
      rcases hE with ⟨r, db, hx, rfl, rfl⟩ | ⟨e, -, ha, hw⟩ | ⟨-, ⟨m, ha⟩, hw⟩
      · by_cases hu : u.Quiet
        · exact h.quiet hu hx
        · cases u with
          | insertSession id token v kind pairId expiresAt =>
            obtain ⟨-, hnew, -, rfl⟩ := insertSession_ok hx
            exact @SessionLedger.insert _ _ _ _ h (newSessionRow id token v kind pairId expiresAt w.now)
              kind rfl hnew
          | deleteSession token => exact absurd trivial hu
          | deletePair pairId exceptToken => exact absurd trivial hu
          | _ => exact absurd hmay.1 hu
      · exact hfailed e ha hw
      · exact hfailed _ ha hw
    | transaction t => exact hmay.elim
    | _ => exact hq.elim
  · rw [hE.db_eq hq]
    refine h.cons_same ?_
    rintro ⟨u, r, heq⟩
    obtain rfl := (Sigma.mk.inj heq).1
    exact hq trivial

end Ledger

/-! ## Interleavings -/

/-- Clients of the session service. -/
abbrev SessionPool (ι : Type) : Type := Pool ι Req Ans Unit Unit World

/-- Clients that are about to call the service or the store over the database, while there are no
sessions. -/
def SessionInit {ι : Type} (config : SessionConfig) (calls : ι → SessionCall) (P : SessionPool ι) :
    Prop :=
  (∀ i, P.threads i = (calls i).run ⟨config, PgSessionStore.store⟩) ∧ P.world.db.sessions = []

section Runs

variable {ι : Type} [DecidableEq ι] {config : SessionConfig} {calls : ι → SessionCall}
  {F : Req → Prop} {tr : List (SessionPool ι × Pool.Label ι Req Ans)} {P : SessionPool ι}

/-- Every event of a run is one its client may request. -/
lemma sessions_justified
    (hr : Run (SessionInit config calls) (Pool.Step (Env F) World.Later) tr P) :
    Pool.Justified (fun i => (calls i).May) (Pool.log tr) := by
  refine Pool.justified_of_run (Q := fun _ _ _ => True) (fun P hi i => ?_) hr
  rw [hi.1 i]
  exact (calls i).traced config

/-- **The table agrees with the log** in every interleaving. -/
theorem sessionLedger_of_run
    (hr : Run (SessionInit config calls) (Pool.Step (Env F) World.Later) tr P) :
    SessionLedger (Pool.log tr) P.world.db.sessions := by
  induction hr with
  | start hi =>
    rw [hi.2]
    exact ⟨fun row hrow => absurd hrow List.not_mem_nil, List.nodup_nil⟩
  | @snoc older P P' l hrun hstep ih =>
    have hjust := sessions_justified (hrun.snoc hstep)
    cases hstep with
    | tick hT => obtain ⟨_, -, rfl⟩ := hT; exact ih
    | @run i q k a w hi hE => exact ih.step hjust.1 hE

/-- A UUID of the log was generated, and by one client if no UUID was generated twice. -/
lemma uuids_of_run (hr : Run (SessionInit config calls) (Pool.Step (Env F) World.Later) tr P)
    (hnodup : P.world.minted.Nodup) {u : Uuid} {i j : ι} (hi : (i, uuidEvent u) ∈ Pool.log tr)
    (hj : (j, uuidEvent u) ∈ Pool.log tr) : u ∈ P.world.minted ∧ i = j := by
  induction hr generalizing i j with
  | start _ => cases hi
  | @snoc older P P' l hrun hstep ih =>
    cases hstep with
    | tick hT => obtain ⟨_, -, rfl⟩ := hT; exact ih hnodup hi hj
    | @run k q c a w hk hE =>
      have hminted : P.world.minted <:+ w.minted := hE.minted
      have ih' : ∀ {i j}, (i, uuidEvent u) ∈ Pool.log older → (j, uuidEvent u) ∈ Pool.log older →
          u ∈ P.world.minted ∧ i = j := ih (hminted.sublist.nodup hnodup)
      -- a UUID that is generated now was not generated before
      have hnow : ∀ {m}, (m, uuidEvent u) = (k, (⟨q, a⟩ : Prog.Event Req Ans)) →
          u ∈ w.minted ∧ u ∉ P.world.minted := by
        intro m heq
        have hevent := (Prod.mk.inj heq).2
        obtain rfl := (Sigma.mk.inj hevent).1
        obtain rfl : u = a := eq_of_heq (Sigma.mk.inj hevent).2
        obtain rfl : w = { P.world with minted := u :: P.world.minted } := hE
        exact ⟨List.mem_cons_self, (List.nodup_cons.mp hnodup).1⟩
      rcases List.mem_cons.mp hi with hi | hi
      · rcases List.mem_cons.mp hj with hj | hj
        · exact ⟨(hnow hi).1, ((Prod.mk.inj hi).1).trans ((Prod.mk.inj hj).1).symm⟩
        · exact absurd (ih' hj hj).1 (hnow hi).2
      · rcases List.mem_cons.mp hj with hj | hj
        · exact absurd (ih' hi hi).1 (hnow hj).2
        · exact ⟨hminted.subset (ih' hi hj).1, (ih' hi hj).2⟩

/-- **A token was minted once** if no UUID was generated twice. -/
lemma minted_once (hr : Run (SessionInit config calls) (Pool.Step (Env F) World.Later) tr P)
    (hnodup : P.world.minted.Nodup) {token : SessionToken} {i j : ι} {id id' : Uuid} {u v : UserId}
    {kind kind' : SessionKind} {pairId pairId' : Option Uuid} {x x' : Time}
    (hi : (i, mintedEvent id token u kind pairId x) ∈ Pool.log tr)
    (hj : (j, mintedEvent id' token v kind' pairId' x') ∈ Pool.log tr) : u = v := by
  have hjust := sessions_justified hr
  have hgenerated : ∀ {k id u kind pairId x},
      (k, mintedEvent id token u kind pairId x) ∈ Pool.log tr →
      (k, uuidEvent token.inner) ∈ Pool.log tr := by
    intro k id u kind pairId x hk
    obtain ⟨newer, older, hlog, hmay⟩ := hjust.of_mem hk
    rw [hlog]
    exact List.mem_append_right _ (List.mem_cons_of_mem _ (Pool.mem_mine.mp hmay.2.1))
  obtain ⟨-, rfl⟩ := uuids_of_run hr hnodup (hgenerated hi) (hgenerated hj)
  -- a client mints at most one session
  by_contra hne
  obtain ⟨newer, older, hlog, -⟩ := hjust.of_mem hi
  have hother : (i, mintedEvent id' token v kind' pairId' x') ∈ newer ∨
      (i, mintedEvent id' token v kind' pairId' x') ∈ older := by
    rw [hlog] at hj
    rcases List.mem_append.mp hj with hj | hj
    · exact .inl hj
    · rcases List.mem_cons.mp hj with heq | hj
      · have hreq := (Sigma.mk.inj (Prod.mk.inj heq).2).1
        obtain ⟨-, -, hv, -⟩ := Update.insertSession.inj (Req.update.inj hreq)
        exact absurd hv.symm hne
      · exact .inr hj
  have hmay : ∀ (h : List (Prog.Event Req Ans)) (q : Req), (calls i).May h q →
      (∃ token, q.Mints token) → ∀ e ∈ h, ¬ ∃ token, e.1.Mints token := by
    rintro h q hq ⟨token', hmints⟩ e he ⟨token'', hmints'⟩
    cases q with
    | update u =>
      cases u with
      | insertSession _ _ _ _ _ _ => exact hq.2.2 e he token'' hmints'
      | _ => exact hmints
    | _ => exact hmints
  rw [hlog] at hjust
  exact Pool.Justified.once (J := fun i => (calls i).May) (φ := fun q => ∃ token, q.Mints token)
    hmay hjust ⟨token, rfl⟩ _ hother rfl ⟨token, rfl⟩

/-- What validating a token over the database finds. -/
lemma exec_validateAccess {w w' : World} {token : SessionToken} {session : Session}
    (h : (SessionService.validateAccess ⟨config, PgSessionStore.store⟩ token).Exec (Env F) w
      (.ok session) w') :
    ∃ row ∈ w.db.sessions, row.token = token ∧ w.now < row.expiresAt ∧
      row.toSession = .ok session ∧ session.kind.isAccess = true := by
  obtain ⟨found, w₁, hfound, h₁⟩ := Prog.exec_bind_ok.mp h
  obtain ⟨session', w₂, hfind, hsome⟩ := Prog.exec_bind_ok.mp hfound
  obtain ⟨⟨_, rfl, hok⟩ | ⟨-, herr⟩, rfl⟩ := Prog.exec_ofOption.mp hsome
  swap
  · cases herr
  obtain rfl := Except.ok.inj hok
  obtain ⟨(row : Option SessionRow), w₃, hrow, hrest⟩ :=
    Prog.exec_bind_ok.mp (Prog.exec_mapErr_ok.mp hfind)
  obtain ⟨hread, rfl⟩ := exec_select_ok.mp (Prog.exec_mapErr_ok.mp hrow)
  have haccess : found = session ∧ session.kind.isAccess = true := by
    split at h₁
    · rename_i hkind
      obtain ⟨heq, -⟩ := Prog.exec_pure.mp h₁
      obtain rfl := Except.ok.inj heq
      exact ⟨rfl, hkind⟩
    · cases (Prog.exec_fail.mp h₁).1
  obtain ⟨rfl, hkind⟩ := haccess
  cases row with
  | none => cases (Prog.exec_pure.mp hrest).1
  | some row =>
    obtain ⟨hsession, -⟩ := Prog.exec_done.mp hrest
    have hmem := List.mem_of_find?_eq_some hread.symm
    obtain ⟨htoken, hactive⟩ := of_decide_eq_true (List.find?_eq_some_iff_append.mp hread.symm).1
    refine ⟨row, hmem, htoken, of_decide_eq_true hactive, ?_, hkind⟩
    cases hto : row.toSession with
    | error e => rw [hto] at hsession; cases hsession
    | ok session =>
      rw [hto] at hsession
      exact congrArg Except.ok (Option.some.inj (Except.ok.inj hsession)).symm

/-- The token that was minted for a session was minted with its fields. -/
lemma minted_of_validated
    (hr : Run (SessionInit config calls) (Pool.Step (Env F) World.Later) tr P)
    {token : SessionToken} {session : Session} {w' : World}
    (h : (SessionService.validateAccess ⟨config, PgSessionStore.store⟩ token).Exec (Env F) P.world
      (.ok session) w') :
    ∃ newer i id older, Pool.log tr = newer ++
        (i, mintedEvent id token session.userId session.kind session.pairId session.expiresAt) ::
          older ∧
      (calls i).Creates session.userId session.kind session.pairId ∧
      session.kind.isAccess = true ∧ P.world.now < session.expiresAt ∧
      Untouched token session.pairId newer := by
  obtain ⟨row, hrow, rfl, hlive, hsession, haccess⟩ := exec_validateAccess h
  obtain ⟨-, hkind, huser, hexpires, hpair⟩ := SessionRow.toSession_ok hsession
  obtain ⟨kind, newer, i, older, hrowKind, hlog, hstands⟩ := (sessionLedger_of_run hr).minted row hrow
  obtain rfl : kind = session.kind := by
    rw [hrowKind, SessionKind.tryFrom_asStr] at hkind
    exact Except.ok.inj hkind
  rw [← huser, ← hexpires, ← hpair] at hlog
  rw [← hpair] at hstands
  rw [← hexpires] at hlive
  refine ⟨newer, i, row.id, older, hlog, ?_, haccess, hlive, hstands⟩
  have hmem : (i, mintedEvent row.id row.token session.userId session.kind session.pairId
      session.expiresAt) ∈ Pool.log tr := by
    rw [hlog]
    exact List.mem_append_right _ List.mem_cons_self
  obtain ⟨_, _, -, hmay⟩ := (sessions_justified hr).of_mem hmem
  exact hmay.1

/-- The latest element of a kind is one. -/
lemma latest_unique {α : Type} {φ : α → Prop} {newer newer' older older' : List α} {x x' : α}
    (h : newer ++ x :: older = newer' ++ x' :: older') (hnewer : ∀ y ∈ newer, ¬ φ y)
    (hnewer' : ∀ y ∈ newer', ¬ φ y) (hx : φ x) (hx' : φ x') : x = x' := by
  induction newer generalizing newer' with
  | nil =>
    cases newer' with
    | nil => exact (List.cons.inj h).1
    | cons y newer' =>
      obtain rfl := (List.cons.inj h).1
      exact absurd hx (hnewer' x List.mem_cons_self)
  | cons y newer ih =>
    cases newer' with
    | nil =>
      obtain rfl := (List.cons.inj h).1
      exact absurd hx' (hnewer y List.mem_cons_self)
    | cons y' newer' =>
      exact ih (List.cons.inj h).2 (fun z hz => hnewer z (List.mem_cons_of_mem _ hz))
        fun z hz => hnewer' z (List.mem_cons_of_mem _ hz)

/-- A token that was minted for a refresh session does not validate. -/
lemma not_exec_validateAccess
    (hr : Run (SessionInit config calls) (Pool.Step (Env F) World.Later) tr P)
    {token : SessionToken} {newer older : List (ι × Prog.Event Req Ans)} {i : ι} {id : Uuid}
    {u : UserId} {pairId : Option Uuid} {expiresAt : Time}
    (hlog : Pool.log tr = newer ++ (i, mintedEvent id token u .refresh pairId expiresAt) :: older)
    (hnewer : ∀ x ∈ newer, TookEffect x.2 → ¬ x.2.1.Mints token) {session : Session} {w' : World} :
    ¬ (SessionService.validateAccess ⟨config, PgSessionStore.store⟩ token).Exec (Env F) P.world
      (.ok session) w' := by
  intro h
  obtain ⟨newer', j, id', older', hlog', -, haccess, -, hstands⟩ := minted_of_validated hr h
  have heq := latest_unique (φ := fun x => TookEffect x.2 ∧ x.2.1.Mints token)
    (hlog.symm.trans hlog') (fun x hx hφ => hnewer x hx hφ.1 hφ.2)
    (fun x hx hφ => (hstands x hx hφ.1).2 hφ.2) ⟨⟨_, _, rfl⟩, rfl⟩ ⟨⟨_, _, rfl⟩, rfl⟩
  have hreq := (Sigma.mk.inj (Prod.mk.inj heq).2).1
  obtain ⟨-, -, -, hkind, -⟩ := Update.insertSession.inj (Req.update.inj hreq)
  rw [← hkind] at haccess
  cases haccess

/-- **A revocation by id, run alone**, removes the session of that id and user only. -/
lemma removed_of_revokeById {w w' : World} (hnodup : (w.db.sessions.map (·.token)).Nodup)
    {u : UserId} {id : Uuid} {r : Except SessionError Unit}
    (h : (PgSessionStore.revokeById u id).Exec (Env F) w r w') {row : SessionRow}
    (hrow : row ∈ w.db.sessions) (hgone : row ∉ w'.db.sessions) : row.userId = u ∧ row.id = id := by
  have hresolve : (PgSessionStore.resolveActiveTokenById u id).Reads (Env F) w fun token =>
      ∃ row ∈ w.db.sessions, row.id = id ∧ row.userId = u ∧ row.token = token := by
    refine (reads_select _).mapErr.bind fun (found : Option SessionToken) hfound => ?_
    refine (Prog.reads_ofOption _ _).mono fun token htoken => ?_
    subst htoken
    obtain ⟨row, hrow, rfl⟩ := Option.map_eq_some_iff.mp hfound.symm
    obtain ⟨hid, huser, -⟩ := of_decide_eq_true (List.find?_eq_some_iff_append.mp hrow).1
    exact ⟨row, List.mem_of_find?_eq_some hrow, hid, huser, rfl⟩
  have hrevoke : (PgSessionStore.revokeById u id).Ensures (Env F) (fun _ w' =>
      ∀ row ∈ w.db.sessions, row ∉ w'.db.sessions → row.userId = u ∧ row.id = id) w := by
    refine hresolve.bind_ensures (fun e row hrow hgone => absurd hrow hgone) ?_
    rintro token ⟨row₀, hrow₀, rfl, rfl, rfl⟩
    refine Prog.wp.mono (writes_execute (.deleteSession row₀.token)).mapErr fun r w' h row hrow => ?_
    cases r with
    | error e =>
      obtain rfl := h
      exact fun hgone => absurd hrow hgone
    | ok _ =>
      obtain ⟨db, hx, rfl⟩ := h
      obtain ⟨-, rfl⟩ := Prod.mk.inj (Except.ok.inj hx)
      intro hgone
      have htoken : row.token = row₀.token := by
        by_contra hne
        exact hgone (List.mem_filter.mpr ⟨hrow, decide_eq_true hne⟩)
      obtain rfl := Keyed.eq_of_key_eq _ hnodup hrow hrow₀ htoken
      exact ⟨rfl, rfl⟩
  exact hrevoke.of_exec h row hrow hgone

/-- A token that was looked up by the id of a session of a user was minted for the user. -/
lemma minted_of_resolved
    (hr : Run (SessionInit config calls) (Pool.Step (Env F) World.Later) tr P) {j : ι} {u : UserId}
    {id : Uuid} {token : SessionToken} (hj : (j, resolvedEvent u id token) ∈ Pool.log tr) :
    ∃ i id' kind pairId expiresAt,
      (i, mintedEvent id' token u kind pairId expiresAt) ∈ Pool.log tr := by
  induction hr with
  | start _ => cases hj
  | @snoc older P P' l hrun hstep ih =>
    have hlater : (j, resolvedEvent u id token) ∈ Pool.log older →
        ∃ i id' kind pairId expiresAt,
          (i, mintedEvent id' token u kind pairId expiresAt) ∈ Pool.log ((P, l) :: older) := by
      intro hold
      obtain ⟨i, id', kind, pairId, expiresAt, hmem⟩ := ih hold
      refine ⟨i, id', kind, pairId, expiresAt, ?_⟩
      cases l with
      | none => exact hmem
      | some e => exact List.mem_cons_of_mem _ hmem
    cases hstep with
    | tick hT => exact hlater hj
    | @run m q k a w hk hE =>
      rcases List.mem_cons.mp hj with heq | hold
      swap
      · exact hlater hold
      -- the lookup finds a row, which was inserted
      obtain ⟨rfl, hevent⟩ := Prod.mk.inj heq
      obtain rfl := (Sigma.mk.inj hevent).1
      obtain rfl := eq_of_heq (Sigma.mk.inj hevent).2
      obtain ⟨-, hanswer | ⟨-, m, hfailed⟩⟩ := hE
      swap
      · exact nomatch hfailed
      obtain ⟨row, hrow, rfl⟩ := Option.map_eq_some_iff.mp (Except.ok.inj hanswer).symm
      obtain ⟨-, rfl, -⟩ := of_decide_eq_true (List.find?_eq_some_iff_append.mp hrow).1
      obtain ⟨kind, newer, i, older', -, hlog, -⟩ :=
        (sessionLedger_of_run hrun).minted row (List.mem_of_find?_eq_some hrow)
      have hmem : (i, mintedEvent row.id row.token row.userId kind row.pairId row.expiresAt) ∈
          Pool.log older := by
        rw [hlog]
        exact List.mem_append_right _ List.mem_cons_self
      exact ⟨i, row.id, kind, row.pairId, row.expiresAt, List.mem_cons_of_mem _ hmem⟩

/-- **A revocation by id in an interleaving** removes sessions of its user only, if no UUID was
generated twice.

**Proof sketch.** Induction on the run.  The token that is deleted was looked up as one of a session
of the user, so it was minted for the user; the row that goes has the same token, which was minted
once. -/
lemma removed_of_step {x : SessionPool ι × Pool.Label ι Req Ans × SessionPool ι}
    (hr : Run (SessionInit config calls) (Pool.Step (Env F) World.Later) tr P)
    (hnodup : P.world.minted.Nodup) {j : ι} {u : UserId} {id : Uuid} {e : Prog.Event Req Ans}
    (hcall : calls j = .store (.revokeById u id)) (hx : x ∈ Run.steps tr P)
    (hl : x.2.1 = some (j, e)) {row : SessionRow} (hrow : row ∈ x.1.world.db.sessions)
    (hgone : row ∉ x.2.2.world.db.sessions) : row.userId = u := by
  induction hr with
  | start _ => cases hx
  | @snoc older P P' l hrun hstep ih =>
    have hjust := sessions_justified (hrun.snoc hstep)
    have hminted : P.world.minted <:+ P'.world.minted := by
      cases hstep with
      | tick hT => obtain ⟨_, -, rfl⟩ := hT; exact List.suffix_rfl
      | run _ hE => exact hE.minted
    have hnodup' := hminted.sublist.nodup hnodup
    rcases List.mem_cons.mp hx with rfl | hx
    swap
    · exact ih hnodup' hx
    dsimp only at hl hrow hgone
    subst hl
    cases hstep with
    | @run _ q k a w hk hE =>
      have hmay : (calls j).May (Pool.mine j (Pool.log older)) q := hjust.1
      rw [hcall] at hmay
      by_cases hq : q.WritesDb
      swap
      · have hdb : w.db = P.world.db := hE.db_eq hq
        rw [hdb] at hgone
        exact absurd hrow hgone
      cases q with
      | update v =>
        cases v with
        | deleteSession token =>
          have hresolved : resolvedEvent u id token ∈ Pool.mine j (Pool.log older) := hmay
          obtain ⟨i, id', kind, pairId, expiresAt, hmem⟩ :=
            minted_of_resolved hrun (Pool.mem_mine.mp hresolved)
          have htoken : row.token = token := by
            by_contra hne
            rcases hE with ⟨r, db, hex, -, rfl⟩ | ⟨e, -, -, rfl⟩ | ⟨-, -, rfl⟩
            · obtain ⟨-, rfl⟩ := Prod.mk.inj (Except.ok.inj hex)
              exact hgone (List.mem_filter.mpr ⟨hrow, decide_eq_true hne⟩)
            · exact hgone hrow
            · exact hgone hrow
          obtain ⟨kind', newer, i', older', -, hlog, -⟩ :=
            (sessionLedger_of_run hrun).minted row hrow
          have hmem' : (i', mintedEvent row.id token row.userId kind' row.pairId row.expiresAt) ∈
              Pool.log older := by
            rw [hlog, ← htoken]
            exact List.mem_append_right _ List.mem_cons_self
          exact minted_once hrun hnodup' hmem' hmem
        | insertSession _ _ _ _ _ _ => exact hmay.1.elim
        | deletePair _ _ => exact hmay.elim
        | _ => exact hmay.2.elim
      | transaction t => exact hmay.elim
      | _ => exact hq.elim

/-- **Soundness of access validation.**  In every interleaving of calls of the session service and
of the store over the database, from a table without sessions, while time passes and whatever fails:

* a token that validates as an access token was minted by a call that creates access or long-lived
  sessions, for the user and with the pair and the expiry of the session that is returned, which is
  still to come; and since then no statement that took effect has deleted the token, or the pair of
  the session but for another token;
* a token that was last minted for a refresh session does not validate;
* a revocation by id removes only sessions of the user it is called with: when it runs alone, and in
  the interleaving too if no UUID was generated twice.

**Proof sketch.** The table agrees with the log (`SessionLedger`), which every statement of a call
keeps; the rest is read off the row that the validation, or the revocation, finds. -/
theorem access_validation_sound
    (hr : Run (SessionInit config calls) (Pool.Step (Env F) World.Later) tr P) :
    (∀ token session w',
      (SessionService.validateAccess ⟨config, PgSessionStore.store⟩ token).Exec (Env F) P.world
        (.ok session) w' →
      ∃ newer i id older, Pool.log tr = newer ++
          (i, mintedEvent id token session.userId session.kind session.pairId session.expiresAt) ::
            older ∧
        (calls i).Creates session.userId session.kind session.pairId ∧
        (session.kind = .access ∨ session.kind = .longLived) ∧ P.world.now < session.expiresAt ∧
        Untouched token session.pairId newer) ∧
    (∀ newer i id token u pairId expiresAt older,
      Pool.log tr = newer ++ (i, mintedEvent id token u .refresh pairId expiresAt) :: older →
      (∀ x ∈ newer, TookEffect x.2 → ¬ x.2.1.Mints token) →
      ∀ session w', ¬ (SessionService.validateAccess ⟨config, PgSessionStore.store⟩ token).Exec
        (Env F) P.world (.ok session) w') ∧
    (∀ u id r w', (PgSessionStore.revokeById u id).Exec (Env F) P.world r w' →
      ∀ row ∈ P.world.db.sessions, row ∉ w'.db.sessions → row.userId = u) ∧
    (P.world.minted.Nodup → ∀ j u id e Q Q', calls j = .store (.revokeById u id) →
      (Q, some (j, e), Q') ∈ Run.steps tr P →
      ∀ row ∈ Q.world.db.sessions, row ∉ Q'.world.db.sessions → row.userId = u) := by
  refine ⟨fun token session w' h => ?_, ?_, ?_, ?_⟩
  · obtain ⟨newer, i, id, older, hlog, hcreates, haccess, hlive, hstands⟩ := minted_of_validated hr h
    refine ⟨newer, i, id, older, hlog, hcreates, ?_, hlive, hstands⟩
    cases hkind : session.kind with
    | access => exact .inl rfl
    | longLived => exact .inr rfl
    | refresh =>
      rw [hkind] at haccess
      cases haccess
  · intro newer i id token u pairId expiresAt older hlog hnewer session w'
    exact not_exec_validateAccess hr hlog hnewer
  · intro u id r w' h row hrow hgone
    exact (removed_of_revokeById (sessionLedger_of_run hr).nodup h hrow hgone).1
  · intro hnodup j u id e Q Q' hcall hx row hrow hgone
    exact removed_of_step hr hnodup hcall hx rfl hrow hgone

end Runs

namespace Scenario

/-- One client creates an access session, and another one tries to revoke it as another user. -/
def sessionCalls : Bool → SessionCall
  | true => .createAccess ⟨901⟩ false none
  | false => .store (.revokeById ⟨902⟩ 1)

/-- The two calls, one after the other. -/
def sessionsPlayed : List (SessionPool Bool × Pool.Label Bool Req Ans) × SessionPool Bool :=
  Pool.schedule World.answer [true, true, true, true, false]
    { threads := fun i => (sessionCalls i).run ⟨{}, PgSessionStore.store⟩, world } []

/-- They are an interleaving. -/
theorem run_sessionsPlayed :
    Run (SessionInit {} sessionCalls) (Pool.Step (Env noFault) World.Later) sessionsPlayed.1
      sessionsPlayed.2 :=
  Pool.run_schedule (env_answer noFault) _ (.start ⟨fun _ => rfl, rfl⟩)

end Scenario

/-- The token of the session validates, and was minted for it. -/
theorem access_validation_sound_played : ∃ session w',
    (SessionService.validateAccess ⟨{}, PgSessionStore.store⟩ ⟨0⟩).Exec (Env noFault)
      Scenario.sessionsPlayed.2.world (.ok session) w' ∧
    ∃ newer i id older, Pool.log Scenario.sessionsPlayed.1 = newer ++
        (i, mintedEvent id ⟨0⟩ session.userId session.kind session.pairId session.expiresAt) ::
          older ∧
      (Scenario.sessionCalls i).Creates session.userId session.kind session.pairId ∧
      (session.kind = .access ∨ session.kind = .longLived) ∧
      Scenario.sessionsPlayed.2.world.now < session.expiresAt ∧
      Untouched ⟨0⟩ session.pairId newer := by
  have hok : ((SessionService.validateAccess ⟨{}, PgSessionStore.store⟩ ⟨0⟩).eval World.answer
      Scenario.sessionsPlayed.2.world).1.isOk = true := by decide +kernel
  obtain ⟨session, h⟩ := exec_of_isOk hok noFault
  exact ⟨session, _, h, (access_validation_sound Scenario.run_sessionsPlayed).1 _ _ _ h⟩

end Klynt
