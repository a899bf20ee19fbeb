import Klynt.Lib.Simulation
import Klynt.Persistence.FakeSessionStore
import Klynt.System.GuardedCall
import Klynt.System.SnapshotAlgebra

set_option relaxedAutoImplicit false
set_option autoImplicit false

/-!
# The store of the tests and the store over the database

The services are tested with the store in memory and run with the one over the database.  Expired
sessions stay in memory and are deleted from the database sooner or later; the expressions on
snapshots are written in SQL in one store and in Rust in the other; one lists sessions by age, the
other in any order.  None of this can be seen through the port.

## Main definitions

* `PortReply.view` — what a caller sees of a reply.
* `PgStep`, `FakeStep` — the two systems.
* `SameSessions` — the relation between their states: the same sessions are alive.

## Main results

* `SameSessions.call` — every operation is answered alike.
* `simulates_fake`, `simulates_pg` — each store simulates the other one.
* `fake_session_store` — the two stores have the same traces, with or without the cleanup job.
-/

namespace Klynt

/-! ## What is seen -/

/-- What a caller sees of a reply. -/
inductive PortView where
  /-- A new token. -/
  | token (r : Except SessionError SessionToken)
  /-- A session, if there is one. -/
  | session (r : Except SessionError (Option Session))
  /-- Nothing. -/
  | unit (r : Except SessionError Unit)
  /-- Sessions with their ids, users, kinds and ends, in no order. -/
  | summaries (r : Except SessionError (Multiset (Uuid × UserId × String × Time)))

/-- What is seen of a summary: the store in memory does not know when a session was created. -/
def SessionSummary.view (s : SessionSummary) : Uuid × UserId × String × Time :=
  (s.id, s.userId, s.kind, s.expiresAt)

/-- What is seen of a reply. -/
def PortReply.view : PortReply → PortView
  | token r => .token r
  | session r => .session r
  | unit r => .unit r
  | summaries r => .summaries (r.map fun l => (l.map SessionSummary.view : Multiset _))

/-- What happens: an operation with its reply, or nothing that is seen. -/
abbrev PortLabel : Type := Option (PortCall × PortReply)

/-- What is seen of what happens. -/
def PortLabel.view (l : PortLabel) : Option (PortCall × PortView) :=
  l.map fun x => (x.1, x.2.view)

/-! ## The systems -/

/-- Sessions are created for users that exist. -/
def PortCall.IsFor (known : UserId → Prop) : PortCall → Prop
  | createWithKind u _ _ _ => known u
  | _ => True

/-- A step of the system over the database. -/
inductive PgStep (known : UserId → Prop) (cleanup : Prop) : World → PortLabel → World → Prop
  /-- An operation, in which no UUID is drawn that was drawn before. -/
  | call {c : PortCall} {a : PortReply} {w w' : World} (hc : c.IsFor known)
      (hx : c.pgReplies w a w') (hfresh : w'.minted.Nodup) : PgStep known cleanup w (some (c, a)) w'
  /-- Time passes. -/
  | tick {w w' : World} (h : w.Later w') : PgStep known cleanup w none w'
  /-- The cleanup job deletes some sessions that have expired. -/
  | purge {w : World} {keep : SessionRow → Bool} (hcleanup : cleanup)
      (hkeep : ∀ row ∈ w.db.sessions, keep row = false → row.expiresAt < w.now) :
      PgStep known cleanup w none
        { w with db := { w.db with sessions := w.db.sessions.filter keep } }

/-- A step of the system in memory. -/
inductive FakeStep (known : UserId → Prop) : FakeWorld → PortLabel → FakeWorld → Prop
  /-- An operation, in which no UUID is drawn that was drawn before. -/
  | call {c : PortCall} {a : PortReply} {v v' : FakeWorld} (hc : c.IsFor known)
      (hx : c.fakeReplies v a v') (hfresh : v'.minted.Nodup) : FakeStep known v (some (c, a)) v'
  /-- Time passes. -/
  | tick {v : FakeWorld} {t : Time} (h : v.now ≤ t) : FakeStep known v none { v with now := t }

/-- The system in memory that starts with a world. -/
def World.fake (w : World) : FakeWorld := ⟨w.now, w.minted, .new⟩

/-! ## Entries -/

/-- A row of the database is an entry of the map. -/
structure SessionRow.IsEntry (row : SessionRow) (x : SessionToken × StoredSession) : Prop where
  /-- The token. -/
  token : row.token = x.1
  /-- The public id. -/
  id : row.id = x.2.publicId
  /-- The session. -/
  session : row.toSession = .ok x.2.session

namespace SessionRow

variable {row : SessionRow} {x y : SessionToken × StoredSession}

/-- The session of a row, from its columns. -/
lemma toSession_eq {l : List MembershipSnapshot} {kind : SessionKind}
    (hdecode : MembershipSnapshot.decode row.tenantMemberships = some l)
    (hkind : SessionKind.tryFrom row.kind = .ok kind) :
    row.toSession = .ok
      { userId := row.userId, expiresAt := row.expiresAt, kind, pairId := row.pairId,
        tenantMemberships := l } := by
  unfold toSession
  rw [hdecode, hkind]
  rfl

/-- A row is one entry. -/
lemma IsEntry.unique (h : row.IsEntry x) (h' : row.IsEntry y) : x = y := by
  obtain ⟨token, session, id⟩ := x
  obtain ⟨token', session', id'⟩ := y
  obtain rfl : token = token' := h.token.symm.trans h'.token
  obtain rfl : id = id' := h.id.symm.trans h'.id
  obtain rfl : session = session' := Except.ok.inj (h.session.symm.trans h'.session)
  rfl

/-- The columns of an entry. -/
lemma IsEntry.columns (h : row.IsEntry x) :
    row.snapshots = x.2.session.tenantMemberships ∧ row.kind = x.2.session.kind.asStr ∧
      row.userId = x.2.session.userId ∧ row.expiresAt = x.2.session.expiresAt ∧
      row.pairId = x.2.session.pairId := by
  obtain ⟨hdecode, hkind, huser, hexpires, hpair⟩ := SessionRow.toSession_ok h.session
  refine ⟨?_, ?_, huser.symm, hexpires.symm, hpair.symm⟩
  · unfold SessionRow.snapshots
    rw [hdecode]
    rfl
  · generalize x.2.session.kind = kind at hkind
    unfold SessionKind.tryFrom at hkind
    split at hkind
    · obtain rfl := Except.ok.inj hkind
      assumption
    · obtain rfl := Except.ok.inj hkind
      assumption
    · obtain rfl := Except.ok.inj hkind
      assumption
    · cases hkind

/-- Whether a session has ended is the same in both stores. -/
lemma IsEntry.active (h : row.IsEntry x) (now : Time) :
    row.active now = !x.2.session.isExpired now := by
  unfold SessionRow.active Session.isExpired
  rw [h.columns.2.2.2.1, ← decide_not]
  exact decide_eq_decide.mpr not_le.symm

end SessionRow

/-- An entry after an edit of the snapshots of a user. -/
def editEntry (u : UserId) (f : List MembershipSnapshot → List MembershipSnapshot)
    (x : SessionToken × StoredSession) : SessionToken × StoredSession :=
  if x.2.session.userId = u then
    (x.1, { x.2 with
      session := { x.2.session with tenantMemberships := f x.2.session.tenantMemberships } })
  else x

/-- An edit leaves the end of a session alone. -/
@[simp] lemma expiresAt_editEntry (u : UserId) (f : List MembershipSnapshot → List MembershipSnapshot)
    (x : SessionToken × StoredSession) :
    (editEntry u f x).2.session.expiresAt = x.2.session.expiresAt := by
  unfold editEntry
  split
  · rfl
  · rfl

/-- An edit leaves the token of a session alone. -/
@[simp] lemma token_editEntry (u : UserId) (f : List MembershipSnapshot → List MembershipSnapshot)
    (x : SessionToken × StoredSession) : (editEntry u f x).1 = x.1 := by
  unfold editEntry
  split
  · rfl
  · rfl

/-- A membership event leaves the token, the id and the end of a session alone. -/
lemma MembershipEvent.editRow_keys (e : MembershipEvent) (now : Time) (row : SessionRow) :
    (e.editRow now row).token = row.token ∧ (e.editRow now row).id = row.id ∧
      (e.editRow now row).expiresAt = row.expiresAt := by
  unfold editRow
  split
  · exact ⟨rfl, rfl, rfl⟩
  · exact ⟨rfl, rfl, rfl⟩

/-- **A membership event edits a row as it edits its entry**, while the session is alive. -/
lemma SessionRow.IsEntry.edit {row : SessionRow} {x : SessionToken × StoredSession}
    (h : row.IsEntry x) (hclean : row.Clean) {now : Time} (hlive : now < x.2.session.expiresAt)
    {e : MembershipEvent} {f : List MembershipSnapshot → List MembershipSnapshot}
    (hf : ∀ l : List MembershipSnapshot, (l.map (·.tenantId)).Nodup → f l = e.edit l) :
    (e.editRow now row).IsEntry (editEntry e.userId f x) := by
  obtain ⟨hsnapshots, -, huser, hexpires, -⟩ := h.columns
  have hactive : row.active now = true := decide_eq_true (hexpires ▸ hlive)
  unfold MembershipEvent.editRow editEntry
  rw [huser]
  by_cases hu : x.2.session.userId = e.userId
  · rw [if_pos ⟨hu, hactive⟩, if_pos hu]
    obtain ⟨-, hkind, huser, hexpires, hpair⟩ := SessionRow.toSession_ok h.session
    refine ⟨h.token, h.id, ?_⟩
    have hedit : e.edit row.snapshots = f x.2.session.tenantMemberships := by
      rw [← hsnapshots]
      exact (hf _ hclean.nodup).symm
    refine (@SessionRow.toSession_eq (row.withSnapshots (e.edit row.snapshots)) _ _
      (MembershipSnapshot.decode_encode _) hkind).trans ?_
    change Except.ok (Session.mk row.userId row.expiresAt _ row.pairId _) = _
    rw [← huser, ← hexpires, ← hpair, hedit]
  · rw [if_neg fun hboth => hu hboth.1, if_neg hu]
    exact h

/-! ## The relation -/

/-- The store over the database and the one in memory have the same sessions alive, and no two
sessions share a token or an id. -/
structure SameSessions (known : UserId → Prop) (w : World) (v : FakeWorld) : Prop where
  /-- The clocks agree. -/
  now : v.now = w.now
  /-- The same UUIDs were drawn. -/
  minted : v.minted = w.minted
  /-- None was drawn twice. -/
  distinct : w.minted.Nodup
  /-- Users have rows. -/
  users : ∀ u, known u → w.db.users.any (·.id = u) = true
  /-- Rows store snapshots without a tenant occurring twice. -/
  clean : ∀ row ∈ w.db.sessions, row.Clean
  /-- Rows are sessions. -/
  entry : ∀ row ∈ w.db.sessions, ∃ x, row.IsEntry x
  /-- Rows have different tokens. -/
  tokens : (w.db.sessions.map (·.token)).Nodup
  /-- Rows have different ids. -/
  ids : (w.db.sessions.map (·.id)).Nodup
  /-- The tokens and ids of rows were drawn. -/
  drawn : ∀ row ∈ w.db.sessions, row.token.inner ∈ w.minted ∧ row.id ∈ w.minted
  /-- The tokens of entries were drawn. -/
  drawnEntry : ∀ x ∈ v.store.sessions, x.1.inner ∈ w.minted
  /-- The same sessions are alive. -/
  live : ∀ x : SessionToken × StoredSession, w.now < x.2.session.expiresAt →
    (x ∈ v.store.sessions ↔ ∃ row ∈ w.db.sessions, row.IsEntry x)

namespace SameSessions

variable {known : UserId → Prop} {w : World} {v : FakeWorld}

/-- Two stores without sessions. -/
lemma initial (hempty : w.db.sessions = []) (hminted : w.minted.Nodup)
    (husers : ∀ u, known u → w.db.users.any (·.id = u) = true) : SameSessions known w w.fake where
  now := rfl
  minted := rfl
  distinct := hminted
  users := husers
  clean row hrow := by rw [hempty] at hrow; cases hrow
  entry row hrow := by rw [hempty] at hrow; cases hrow
  tokens := by rw [hempty]; exact List.nodup_nil
  ids := by rw [hempty]; exact List.nodup_nil
  drawn row hrow := by rw [hempty] at hrow; cases hrow
  drawnEntry x hx := by cases hx
  live x _ := by
    constructor
    · intro hx
      cases hx
    · rintro ⟨row, hrow, -⟩
      rw [hempty] at hrow
      cases hrow

/-- A session that is alive has one row. -/
lemma row_of_mem (h : SameSessions known w v) {x : SessionToken × StoredSession}
    (hx : x ∈ v.store.sessions) (hlive : ¬ x.2.session.isExpired v.now = true) :
    ∃ row ∈ w.db.sessions, row.IsEntry x ∧ row.active w.now = true := by
  have hlt : w.now < x.2.session.expiresAt := by
    rw [← h.now]
    exact not_le.mp fun hle => hlive (decide_eq_true hle)
  obtain ⟨row, hrow, hentry⟩ := (h.live x hlt).mp hx
  exact ⟨row, hrow, hentry, decide_eq_true (hentry.columns.2.2.2.1 ▸ hlt)⟩

/-- A row that is alive has one session. -/
lemma mem_of_row (h : SameSessions known w v) {row : SessionRow} (hrow : row ∈ w.db.sessions)
    (hactive : row.active w.now = true) :
    ∃ x ∈ v.store.sessions, row.IsEntry x ∧ ¬ x.2.session.isExpired v.now = true := by
  obtain ⟨x, hentry⟩ := h.entry row hrow
  have hlt : w.now < x.2.session.expiresAt := hentry.columns.2.2.2.1 ▸ of_decide_eq_true hactive
  refine ⟨x, (h.live x hlt).mpr ⟨row, hrow, hentry⟩, hentry, fun hexpired => ?_⟩
  rw [h.now] at hexpired
  exact absurd hlt (not_lt.mpr (of_decide_eq_true hexpired))

/-- Time passes in both stores. -/
lemma tick (h : SameSessions known w v) {t : Time} (ht : w.now ≤ t) :
    SameSessions known { w with now := t } { v with now := t } :=
  { h with
    now := rfl
    live := fun x hx => h.live x (ht.trans_lt hx) }

/-- Expired rows are deleted. -/
lemma purge (h : SameSessions known w v) {keep : SessionRow → Bool}
    (hkeep : ∀ row ∈ w.db.sessions, keep row = false → row.expiresAt < w.now) :
    SameSessions known { w with db := { w.db with sessions := w.db.sessions.filter keep } } v :=
  { h with
    clean := fun row hrow => h.clean row (List.mem_of_mem_filter hrow)
    entry := fun row hrow => h.entry row (List.mem_of_mem_filter hrow)
    tokens := h.tokens.sublist (List.filter_sublist.map _)
    ids := h.ids.sublist (List.filter_sublist.map _)
    drawn := fun row hrow => h.drawn row (List.mem_of_mem_filter hrow)
    live := fun x hx => by
      refine (h.live x hx).trans ⟨?_, fun ⟨row, hrow, hentry⟩ =>
        ⟨row, List.mem_of_mem_filter hrow, hentry⟩⟩
      rintro ⟨row, hrow, hentry⟩
      refine ⟨row, List.mem_filter.mpr ⟨hrow, ?_⟩, hentry⟩
      cases hdrop : keep row with
      | true => rfl
      | false =>
        have hpast := hkeep row hrow hdrop
        rw [hentry.columns.2.2.2.1] at hpast
        exact absurd (hx.trans hpast) (lt_irrefl _) }

/-- The same sessions are revoked in both stores. -/
lemma retain (h : SameSessions known w v) {p : SessionRow → Bool}
    {q : SessionToken × StoredSession → Bool}
    (hpq : ∀ row ∈ w.db.sessions, ∀ x, row.IsEntry x → p row = q x) :
    SameSessions known { w with db := { w.db with sessions := w.db.sessions.filter p } }
      { v with store := v.store.retain q } :=
  { h with
    clean := fun row hrow => h.clean row (List.mem_of_mem_filter hrow)
    entry := fun row hrow => h.entry row (List.mem_of_mem_filter hrow)
    tokens := h.tokens.sublist (List.filter_sublist.map _)
    ids := h.ids.sublist (List.filter_sublist.map _)
    drawn := fun row hrow => h.drawn row (List.mem_of_mem_filter hrow)
    drawnEntry := fun x hx => h.drawnEntry x (List.mem_of_mem_filter hx)
    live := fun x hx => by
      constructor
      · intro hmem
        obtain ⟨hmem, hq⟩ := List.mem_filter.mp hmem
        obtain ⟨row, hrow, hentry⟩ := (h.live x hx).mp hmem
        exact ⟨row, List.mem_filter.mpr ⟨hrow, (hpq row hrow x hentry).trans hq⟩, hentry⟩
      · rintro ⟨row, hrow, hentry⟩
        obtain ⟨hrow, hp⟩ := List.mem_filter.mp hrow
        exact List.mem_filter.mpr ⟨(h.live x hx).mpr ⟨row, hrow, hentry⟩,
          (hpq row hrow x hentry).symm.trans hp⟩ }

/-- **A membership event is followed** by the same sessions in both stores. -/
lemma edit (h : SameSessions known w v) {e : MembershipEvent}
    {f : List MembershipSnapshot → List MembershipSnapshot}
    (hf : ∀ l : List MembershipSnapshot, (l.map (·.tenantId)).Nodup → f l = e.edit l) :
    SameSessions known
      { w with db := { w.db with sessions := w.db.sessions.map (e.editRow w.now) } }
      { v with store := v.store.mutateMemberships e.userId f } :=
  { h with
    clean := fun row hrow => by
      obtain ⟨old, hold, rfl⟩ := List.mem_map.mp hrow
      exact (h.clean old hold).editRow e w.now
    entry := fun row hrow => by
      obtain ⟨old, hold, rfl⟩ := List.mem_map.mp hrow
      obtain ⟨x, hentry⟩ := h.entry old hold
      by_cases hlive : w.now < x.2.session.expiresAt
      · exact ⟨_, hentry.edit (h.clean old hold) hlive hf⟩
      · refine ⟨x, ?_⟩
        unfold MembershipEvent.editRow
        rwa [if_neg fun hboth => hlive (hentry.columns.2.2.2.1 ▸ of_decide_eq_true hboth.2)]
    tokens := Keyed.nodup_map _ (fun row => (e.editRow_keys w.now row).1) h.tokens
    ids := Keyed.nodup_map _ (fun row => (e.editRow_keys w.now row).2.1) h.ids
    drawn := fun row hrow => by
      obtain ⟨old, hold, rfl⟩ := List.mem_map.mp hrow
      obtain ⟨htoken, hid, -⟩ := e.editRow_keys w.now old
      rw [htoken, hid]
      exact h.drawn old hold
    drawnEntry := fun x hx => by
      obtain ⟨y, hy, rfl⟩ := List.mem_map.mp hx
      change (editEntry e.userId f y).1.inner ∈ w.minted
      rw [token_editEntry]
      exact h.drawnEntry y hy
    live := fun x hx => by
      constructor
      · intro hmem
        obtain ⟨y, hy, rfl⟩ := List.mem_map.mp hmem
        have hlive : w.now < y.2.session.expiresAt := expiresAt_editEntry e.userId f y ▸ hx
        obtain ⟨row, hrow, hentry⟩ := (h.live y hlive).mp hy
        exact ⟨_, List.mem_map_of_mem hrow, hentry.edit (h.clean row hrow) hlive hf⟩
      · rintro ⟨row, hrow, hentry⟩
        obtain ⟨old, hold, rfl⟩ := List.mem_map.mp hrow
        obtain ⟨y, hentryOld⟩ := h.entry old hold
        have hends : y.2.session.expiresAt = x.2.session.expiresAt := by
          rw [← hentryOld.columns.2.2.2.1, ← hentry.columns.2.2.2.1,
            (e.editRow_keys w.now old).2.2]
        have hlive : w.now < y.2.session.expiresAt := hends ▸ hx
        have hy : y ∈ v.store.sessions := (h.live y hlive).mpr ⟨old, hold, hentryOld⟩
        rw [hentry.unique (hentryOld.edit (h.clean old hold) hlive hf)]
        exact List.mem_map_of_mem (f := editEntry e.userId f) hy }

end SameSessions

/-! ## Operations -/

section Runs

variable {ε : Type} {g : SqlxError → ε} {w w' : World}

/-- The run of a `SELECT` that does not fail. -/
lemma exec_select_noFault {q : Query} {r : Except ε q.Res} :
    ((select q).mapErr g).Exec (Env noFault) w r w' ↔ r = .ok (q.exec w.now w.db) ∧ w' = w := by
  constructor
  · rintro ⟨a, w₁, ⟨rfl, rfl | ⟨hF, -⟩⟩, rfl, rfl⟩
    · exact ⟨rfl, rfl⟩
    · exact hF.elim
  · rintro ⟨rfl, rfl⟩
    exact ⟨_, _, ⟨rfl, .inl rfl⟩, rfl, rfl⟩

/-- The run of a statement that does not fail. -/
lemma exec_execute_noFault {u : Update} {a : u.Res} {db : Db} (h : u.exec w.now w.db = .ok (a, db))
    {r : Except ε u.Res} :
    ((execute u).mapErr g).Exec (Env noFault) w r w' ↔ r = .ok a ∧ w' = { w with db } := by
  constructor
  · rintro ⟨b, w₁, ⟨b', db', hx, rfl, rfl⟩ | ⟨e, hx, -⟩ | ⟨hF, -⟩, rfl, rfl⟩
    · obtain ⟨rfl, rfl⟩ := Prod.mk.inj (Except.ok.inj (h.symm.trans hx))
      exact ⟨rfl, rfl⟩
    · cases h.symm.trans hx
    · exact hF.elim
  · rintro ⟨rfl, rfl⟩
    exact ⟨_, _, .inl ⟨a, db, h, rfl, rfl⟩, rfl, rfl⟩

/-- A program with one run is followed by the next one. -/
lemma exec_bind_noFault {α β : Type} {p : Action ε α} {f : α → Action ε β} {a : α} {w₁ : World}
    (h : ∀ r w', p.Exec (Env noFault) w r w' ↔ r = .ok a ∧ w' = w₁) {r : Except ε β} :
    (p >>= f).Exec (Env noFault) w r w' ↔ (f a).Exec (Env noFault) w₁ r w' := by
  rw [Prog.exec_bind]
  constructor
  · rintro (⟨b, w₂, hp, hf⟩ | ⟨e, -, hp⟩)
    · obtain ⟨hb, rfl⟩ := (h _ _).mp hp
      obtain rfl := Except.ok.inj hb
      exact hf
    · cases ((h _ _).mp hp).1
  · exact fun hf => .inl ⟨a, w₁, (h _ _).mpr ⟨rfl, rfl⟩, hf⟩

/-- The reply of a program with one run. -/
lemma replies_noFault {α : Type} {p : Action SessionError α} {reply : Except SessionError α → PortReply}
    {x : Except SessionError α} (h : ∀ r w₁, p.Exec (Env noFault) w r w₁ ↔ r = x ∧ w₁ = w')
    (b : PortReply) (w₁ : World) :
    (∃ r, b = reply r ∧ p.Exec (Env noFault) w r w₁) ↔ b = reply x ∧ w₁ = w' := by
  constructor
  · rintro ⟨r, rfl, hx⟩
    obtain ⟨rfl, rfl⟩ := (h _ _).mp hx
    exact ⟨rfl, rfl⟩
  · rintro ⟨rfl, rfl⟩
    exact ⟨x, rfl, (h _ _).mpr ⟨rfl, rfl⟩⟩

/-- The run of `createWithKind` that does not fail. -/
lemma exec_createWithKind_noFault {u : UserId} {expiresAt : Time} {kind : SessionKind}
    {pairId : Option Uuid} {r : Except SessionError SessionToken} :
    (PgSessionStore.createWithKind u expiresAt kind pairId).Exec (Env noFault) w r w' ↔
      ∃ token id : Uuid, Prog.Exec (Env noFault)
        (((execute (.insertSession id ⟨token⟩ u kind pairId expiresAt)).mapErr SessionError.ofSqlx) >>=
          fun _ => pure (⟨token⟩ : SessionToken))
        { w with minted := id :: token :: w.minted } r w' := by
  constructor
  · rintro ⟨token, w₁, rfl, id, w₂, rfl, h⟩
    exact ⟨token, id, h⟩
  · rintro ⟨token, id, h⟩
    exact ⟨token, _, rfl, id, _, rfl, h⟩

end Runs

/-- A world after a session was created. -/
def World.withSession (w : World) (id token : Uuid) (u : UserId) (expiresAt : Time)
    (kind : SessionKind) (pairId : Option Uuid) : World :=
  { w with
    minted := id :: token :: w.minted
    db := { w.db with sessions := w.db.sessions ++
      [{ id, token := ⟨token⟩, userId := u, expiresAt, createdAt := w.now,
         tenantMemberships := Json.emptyArray, kind := kind.asStr, pairId }] } }

/-- The database answers an operation in one way, the store in memory answers it, and whatever it
answers looks the same and leaves both with the same sessions. -/
structure AnsweredAlike (known : UserId → Prop) (c : PortCall) (w : World) (v : FakeWorld)
    (a : PortReply) (w' : World) : Prop where
  /-- The answer of the database. -/
  pg : ∀ b w₁, c.pgReplies w b w₁ ↔ b = a ∧ w₁ = w'
  /-- There is an answer from memory. -/
  answered : ∃ b v', c.fakeReplies v b v'
  /-- Every answer from memory is like it. -/
  fake : ∀ b v', c.fakeReplies v b v' → b.view = a.view ∧ SameSessions known w' v'

namespace SameSessions

variable {known : UserId → Prop} {w : World} {v : FakeWorld}

/-- The session of an active row of a token is the valid one in memory. -/
lemma findValid_eq (h : SameSessions known w v) (token : SessionToken) :
    (match w.db.sessions.find? fun s => s.token = token ∧ s.active w.now with
      | some row => row.toSession.map some
      | none => .ok none) = (.ok (v.store.findValid v.now token) : Except SessionError _) := by
  cases hfind : w.db.sessions.find? fun s => s.token = token ∧ s.active w.now with
  | some row =>
    have hfound := List.find?_some hfind
    obtain ⟨htoken, hactive⟩ : row.token = token ∧ row.active w.now = true := by simpa using hfound
    obtain ⟨x, hx, hentry, hlive⟩ := h.mem_of_row (List.mem_of_find?_eq_some hfind) hactive
    have hfake : v.store.sessions.find? (·.1 = token) = some x := by
      rw [← htoken, hentry.token]
      exact Keyed.find?_key_eq (·.1) v.store.tokens hx
    simp only [hentry.session, FakeSessionStore.findValid, hfake, Option.map_some]
    rw [Option.filter_some, if_pos (decide_eq_true hlive)]
    rfl
  | none =>
    refine congrArg Except.ok (Eq.symm (Option.eq_none_iff_forall_not_mem.mpr ?_))
    intro session hsession
    obtain ⟨hsession, hlive⟩ := Option.filter_eq_some_iff.mp hsession
    obtain ⟨x, hfake, rfl⟩ := Option.map_eq_some_iff.mp hsession
    have hfound : x.1 = token := by simpa using List.find?_some hfake
    obtain ⟨row, hrow, hentry, hactive⟩ :=
      h.row_of_mem (List.mem_of_find?_eq_some hfake) (of_decide_eq_true hlive)
    exact List.find?_eq_none.mp hfind row hrow (decide_eq_true ⟨hentry.token.trans hfound, hactive⟩)

/-- A session is found alike. -/
lemma findValid (h : SameSessions known w v) (token : SessionToken) :
    AnsweredAlike known (.findValid token) w v (.session (.ok (v.store.findValid v.now token))) w where
  pg := by
    refine replies_noFault fun r w₁ => ?_
    refine (exec_bind_noFault fun r w' => exec_select_noFault).trans ?_
    rw [← h.findValid_eq token]
    change Prog.Exec _ (match w.db.sessions.find? fun s => s.token = token ∧ s.active w.now with
      | some row => Prog.done (row.toSession.map some)
      | none => pure none) w r w₁ ↔ _
    split
    · exact Iff.rfl
    · exact Iff.rfl
  answered := ⟨_, _, rfl, rfl⟩
  fake := by
    rintro b v' ⟨rfl, rfl⟩
    exact ⟨rfl, h⟩

/-- A session is revoked alike. -/
lemma revoke (h : SameSessions known w v) (token : SessionToken) :
    AnsweredAlike known (.revoke token) w v (.unit (.ok ())) { w with db := { w.db with
      sessions := w.db.sessions.filter (·.token ≠ token) } } where
  pg := replies_noFault fun _ _ => exec_execute_noFault rfl
  answered := ⟨_, _, rfl, rfl⟩
  fake := by
    rintro b v' ⟨rfl, rfl⟩
    refine ⟨rfl, h.retain fun row _ x hentry => ?_⟩
    rw [hentry.token]

/-- The sessions of a pair are revoked alike. -/
lemma revokePair (h : SameSessions known w v) (pairId : Uuid) (exceptToken : SessionToken) :
    AnsweredAlike known (.revokePair pairId exceptToken) w v (.unit (.ok ()))
      { w with db := { w.db with sessions := w.db.sessions.filter fun s =>
          ¬ (s.pairId = some pairId ∧ s.token ≠ exceptToken) } } where
  pg := replies_noFault fun _ _ => exec_execute_noFault rfl
  answered := ⟨_, _, rfl, rfl⟩
  fake := by
    rintro b v' ⟨rfl, rfl⟩
    refine ⟨rfl, h.retain fun row _ x hentry => ?_⟩
    rw [hentry.token, hentry.columns.2.2.2.2]

/-- A session is revoked by its id alike. -/
lemma revokeById (h : SameSessions known w v) (u : UserId) (id : Uuid) :
    ∃ a w', AnsweredAlike known (.revokeById u id) w v a w' := by
  have hselect : ∀ r w₁, (PgSessionStore.resolveActiveTokenById u id).Exec (Env noFault) w r w₁ ↔ _ :=
    fun r w₁ => exec_bind_noFault fun r w' => exec_select_noFault
  cases hfind : w.db.sessions.find? fun s => s.id = id ∧ s.userId = u ∧ s.active w.now with
  | some row =>
    have hfound := List.find?_some hfind
    obtain ⟨hid, huser, hactive⟩ : row.id = id ∧ row.userId = u ∧ row.active w.now = true := by
      simpa using hfound
    have hrow := List.mem_of_find?_eq_some hfind
    have hresolve : ∀ r w₁, (PgSessionStore.resolveActiveTokenById u id).Exec (Env noFault) w r w₁ ↔
        r = .ok row.token ∧ w₁ = w := by
      intro r w₁
      refine (hselect r w₁).trans ?_
      change Prog.Exec _ (Prog.ofOption _ (Option.map _ (w.db.sessions.find? _))) _ _ _ ↔ _
      rw [hfind]
      exact Iff.rfl
    refine ⟨.unit (.ok ()), { w with db := { w.db with
      sessions := w.db.sessions.filter (·.token ≠ row.token) } }, ?_, ?_, ?_⟩
    · refine replies_noFault fun r w₁ => ?_
      exact (exec_bind_noFault hresolve).trans (exec_execute_noFault rfl)
    · obtain ⟨x, hx, hentry, hlive⟩ := h.mem_of_row hrow hactive
      refine ⟨_, _, .inl ⟨x, hx, decide_eq_true ⟨hentry.id.symm.trans hid, ?_, hlive⟩, rfl, rfl⟩⟩
      exact hentry.columns.2.2.1.symm.trans huser
    · rintro b v' (⟨x, hx, hof, rfl, rfl⟩ | ⟨hnone, -⟩)
      · obtain ⟨hid', -, hlive⟩ := of_decide_eq_true hof
        obtain ⟨row', hrow', hentry, -⟩ := h.row_of_mem hx hlive
        obtain rfl : row' = row :=
          Keyed.eq_of_key_eq _ h.ids hrow' hrow (hentry.id.trans (hid'.trans hid.symm))
        refine ⟨rfl, h.retain fun old _ y hold => ?_⟩
        rw [hold.token, hentry.token]
      · obtain ⟨x, hx, hentry, hlive⟩ := h.mem_of_row hrow hactive
        refine absurd (decide_eq_true ⟨hentry.id.symm.trans hid, ?_, hlive⟩) (hnone x hx)
        exact hentry.columns.2.2.1.symm.trans huser
  | none =>
    have hresolve : ∀ r w₁, (PgSessionStore.resolveActiveTokenById u id).Exec (Env noFault) w r w₁ ↔
        r = .error .forbidden ∧ w₁ = w := by
      intro r w₁
      refine (hselect r w₁).trans ?_
      change Prog.Exec _ (Prog.ofOption _ (Option.map _ (w.db.sessions.find? _))) _ _ _ ↔ _
      rw [hfind]
      exact Iff.rfl
    have hmissing : ∀ x ∈ v.store.sessions, ¬ FakeSessionStore.isOf v.now u id x = true := by
      intro x hx hof
      obtain ⟨hid, huser, hlive⟩ := of_decide_eq_true hof
      obtain ⟨row, hrow, hentry, hactive⟩ := h.row_of_mem hx hlive
      refine List.find?_eq_none.mp hfind row hrow (decide_eq_true ⟨hentry.id.trans hid, ?_, hactive⟩)
      exact hentry.columns.2.2.1.trans huser
    refine ⟨.unit (.error .forbidden), w, ?_, ⟨_, _, .inr ⟨hmissing, rfl, rfl⟩⟩, ?_⟩
    · refine replies_noFault fun r w₁ => ?_
      refine Prog.exec_bind.trans ⟨?_, ?_⟩
      · rintro (⟨token, w₂, hx, -⟩ | ⟨e, rfl, hx⟩)
        · cases ((hresolve _ _).mp hx).1
        · obtain ⟨he, rfl⟩ := (hresolve _ _).mp hx
          exact ⟨congrArg _ (Except.error.inj he), rfl⟩
      · rintro ⟨rfl, rfl⟩
        exact .inr ⟨_, rfl, (hresolve _ _).mpr ⟨rfl, rfl⟩⟩
    · rintro b v' (⟨x, hx, hof, -⟩ | ⟨-, rfl, rfl⟩)
      · exact absurd hof (hmissing x hx)
      · exact ⟨rfl, h⟩

/-- The active sessions of a user are the same ones, in some order. -/
lemma perm_active (h : SameSessions known w v) (u : UserId) :
    ((v.store.sessions.filter fun x => x.2.session.userId = u ∧ ¬ x.2.session.isExpired v.now).map
      fun x => (FakeSessionStore.summary v.now x).view).Perm
    ((w.db.activeSessionsOf w.now u).map fun row => row.toSummary.view) := by
  have hview : ∀ {row : SessionRow} {x : SessionToken × StoredSession}, row.IsEntry x →
      (FakeSessionStore.summary v.now x).view = row.toSummary.view := by
    intro row x hentry
    obtain ⟨-, hkind, huser, hexpires, -⟩ := hentry.columns
    unfold SessionRow.toSummary SessionSummary.view FakeSessionStore.summary
    simp only [hentry.id, hkind, huser, hexpires]
  refine (List.perm_ext_iff_of_nodup ?_ ?_).mpr fun summary => ?_
  · refine List.Nodup.map_on ?_ ((List.Nodup.of_map _ v.store.tokens).filter _)
    intro x hx y hy hsame
    obtain ⟨hx, -, hlive⟩ : x ∈ v.store.sessions ∧ x.2.session.userId = u ∧
      ¬ x.2.session.isExpired v.now = true := by simpa using List.mem_filter.mp hx
    obtain ⟨hy, -, hlive'⟩ : y ∈ v.store.sessions ∧ y.2.session.userId = u ∧
      ¬ y.2.session.isExpired v.now = true := by simpa using List.mem_filter.mp hy
    obtain ⟨row, hrow, hentry, -⟩ := h.row_of_mem hx hlive
    obtain ⟨row', hrow', hentry', -⟩ := h.row_of_mem hy hlive'
    have hid : x.2.publicId = y.2.publicId := congrArg (·.1) hsame
    obtain rfl : row = row' :=
      Keyed.eq_of_key_eq _ h.ids hrow hrow' (hentry.id.trans (hid.trans hentry'.id.symm))
    exact hentry.unique hentry'
  · refine List.Nodup.of_map Prod.fst ?_
    rw [List.map_map]
    exact Keyed.nodup_filter _ h.ids
  · constructor
    · intro hmem
      obtain ⟨x, hx, rfl⟩ := List.mem_map.mp hmem
      obtain ⟨hx, huser, hlive⟩ : x ∈ v.store.sessions ∧ x.2.session.userId = u ∧
        ¬ x.2.session.isExpired v.now = true := by simpa using List.mem_filter.mp hx
      obtain ⟨row, hrow, hentry, hactive⟩ := h.row_of_mem hx hlive
      refine List.mem_map.mpr ⟨row, List.mem_filter.mpr ⟨hrow, decide_eq_true ⟨?_, hactive⟩⟩,
        (hview hentry).symm⟩
      exact hentry.columns.2.2.1.trans huser
    · intro hmem
      obtain ⟨row, hrow, rfl⟩ := List.mem_map.mp hmem
      obtain ⟨hrow, huser, hactive⟩ : row ∈ w.db.sessions ∧ row.userId = u ∧
        row.active w.now = true := by simpa using List.mem_filter.mp hrow
      obtain ⟨x, hx, hentry, hlive⟩ := h.mem_of_row hrow hactive
      refine List.mem_map.mpr ⟨x, List.mem_filter.mpr ⟨hx, decide_eq_true ⟨?_, hlive⟩⟩, hview hentry⟩
      exact hentry.columns.2.2.1.symm.trans huser

/-- The active sessions of a user are listed alike. -/
lemma listActiveByUser (h : SameSessions known w v) (u : UserId) :
    AnsweredAlike known (.listActiveByUser u) w v (.summaries (.ok
      (((Query.activeSessions u).exec w.now w.db : List SessionRow).map (·.toSummary)))) w where
  pg := replies_noFault fun _ _ => exec_bind_noFault fun _ _ => exec_select_noFault
  answered := ⟨_, _, rfl, _, .refl _, rfl⟩
  fake := by
    rintro b v' ⟨rfl, l, hl, rfl⟩
    refine ⟨congrArg (fun m => PortView.summaries (.ok m)) (Multiset.coe_eq_coe.mpr ?_), h⟩
    have hrows : ((Query.activeSessions u).exec w.now w.db : List SessionRow).Perm
        (w.db.activeSessionsOf w.now u) := List.perm_insertionSort _ _
    have hsorted := (hrows.map (·.toSummary)).map SessionSummary.view
    rw [List.map_map] at hsorted ⊢
    exact (hl.map _).trans ((h.perm_active u).trans hsorted.symm)

/-- An edit of snapshots is answered alike. -/
lemma edited (h : SameSessions known w v) {c : PortCall} {e : MembershipEvent}
    {f : List MembershipSnapshot → List MembershipSnapshot}
    (hpg : ∀ b w₁, c.pgReplies w b w₁ ↔ b = .unit (.ok ()) ∧ w₁ = { w with db := { w.db with
      sessions := w.db.sessions.map (e.editRow w.now) } })
    (hfake : ∀ b v', c.fakeReplies v b v' ↔ b = .unit (.ok ()) ∧
      v' = { v with store := v.store.mutateMemberships e.userId f })
    (hf : ∀ l : List MembershipSnapshot, (l.map (·.tenantId)).Nodup → f l = e.edit l) :
    ∃ a w', AnsweredAlike known c w v a w' := by
  refine ⟨_, _, hpg, ⟨_, _, (hfake _ _).mpr ⟨rfl, rfl⟩⟩, fun b v' hx => ?_⟩
  obtain ⟨rfl, rfl⟩ := (hfake b v').mp hx
  exact ⟨rfl, h.edit hf⟩

/-- **Every operation but the creation of a session is answered alike.** -/
theorem answeredAlike (h : SameSessions known w v) {c : PortCall}
    (hc : ∀ u expiresAt kind pairId, c ≠ .createWithKind u expiresAt kind pairId) :
    ∃ a w', AnsweredAlike known c w v a w' := by
  have hstored : ∀ row ∈ w.db.sessions, row.Stored := fun row hrow => (h.clean row hrow).stored
  cases c with
  | createWithKind u expiresAt kind pairId => exact absurd rfl (hc u expiresAt kind pairId)
  | findValid token => exact ⟨_, _, h.findValid token⟩
  | revoke token => exact ⟨_, _, h.revoke token⟩
  | revokeById u id => exact h.revokeById u id
  | revokePair pairId exceptToken => exact ⟨_, _, h.revokePair pairId exceptToken⟩
  | listActiveByUser u => exact ⟨_, _, h.listActiveByUser u⟩
  | addMembership u snapshot =>
    obtain ⟨res, hx⟩ : ∃ res : Unit, (Update.addSnapshot u snapshot).exec w.now w.db = .ok (res, _) :=
      (MembershipEvent.added ⟨snapshot.tenantId⟩ u snapshot.role).exec_statement hstored
    exact h.edited (replies_noFault fun _ _ => exec_execute_noFault hx) (fun _ _ => Iff.rfl)
      fun _ hl => FakeSessionStore.addTo_eq hl
  | updateMembershipForUser u snapshot =>
    obtain ⟨res, hx⟩ :
        ∃ res : Unit, (Update.updateSnapshot u snapshot).exec w.now w.db = .ok (res, _) :=
      (MembershipEvent.updated ⟨snapshot.tenantId⟩ u snapshot.role).exec_statement hstored
    exact h.edited (replies_noFault fun _ _ => exec_execute_noFault hx) (fun _ _ => Iff.rfl)
      fun _ hl => FakeSessionStore.updateIn_eq hl
  | removeMembership u t =>
    obtain ⟨res, hx⟩ : ∃ res : Unit, (Update.removeSnapshot u t).exec w.now w.db = .ok (res, _) :=
      (MembershipEvent.removed t u).exec_statement hstored
    exact h.edited (replies_noFault fun _ _ => exec_execute_noFault hx) (fun _ _ => Iff.rfl)
      fun _ _ => rfl

/-- UUIDs that were not drawn before are of no session. -/
lemma fresh (h : SameSessions known w v) {token id : Uuid} (hfresh : (id :: token :: w.minted).Nodup) :
    (∀ row ∈ w.db.sessions, row.token ≠ ⟨token⟩ ∧ row.id ≠ id) ∧
      ∀ x ∈ v.store.sessions, x.1 ≠ ⟨token⟩ := by
  obtain ⟨hid, hrest⟩ := List.nodup_cons.mp hfresh
  obtain ⟨htoken, -⟩ := List.nodup_cons.mp hrest
  refine ⟨fun row hrow => ⟨fun heq => htoken ?_, fun heq => hid ?_⟩, fun x hx heq => htoken ?_⟩
  · have hdrawn := (h.drawn row hrow).1
    rwa [heq] at hdrawn
  · exact List.mem_cons_of_mem _ (heq ▸ (h.drawn row hrow).2)
  · have hdrawn := h.drawnEntry x hx
    rwa [heq] at hdrawn

/-- A session is created in both stores. -/
lemma created (h : SameSessions known w v) {token id : Uuid} {u : UserId} {expiresAt : Time}
    {kind : SessionKind} {pairId : Option Uuid} (hfresh : (id :: token :: w.minted).Nodup) :
    SameSessions known (w.withSession id token u expiresAt kind pairId)
      { v with
        minted := id :: token :: v.minted
        store := v.store.insert ⟨token⟩
          ⟨{ userId := u, expiresAt, kind, pairId, tenantMemberships := [] }, id⟩ } := by
  obtain ⟨hrows, hentries⟩ := h.fresh hfresh
  have hkept : v.store.sessions.filter (·.1 ≠ ⟨token⟩) = v.store.sessions :=
    List.filter_eq_self.mpr fun x hx => decide_eq_true (hentries x hx)
  have hentry : SessionRow.IsEntry
      { id, token := ⟨token⟩, userId := u, expiresAt, createdAt := w.now,
        tenantMemberships := Json.emptyArray, kind := kind.asStr, pairId }
      (⟨token⟩, ⟨{ userId := u, expiresAt, kind, pairId, tenantMemberships := [] }, id⟩) :=
    ⟨rfl, rfl, SessionRow.toSession_eq rfl (SessionKind.tryFrom_asStr kind)⟩
  refine { h with
    minted := congrArg (fun l => id :: token :: l) h.minted
    distinct := hfresh
    clean := fun row hrow => ?_
    entry := fun row hrow => ?_
    tokens := Keyed.nodup_concat _ h.tokens fun row hrow => (hrows row hrow).1
    ids := Keyed.nodup_concat _ h.ids fun row hrow => (hrows row hrow).2
    drawn := fun row hrow => ?_
    drawnEntry := fun x hx => ?_
    live := fun x hx => ?_ }
  · obtain hrow | hrow := List.mem_append.mp hrow
    · exact h.clean row hrow
    · obtain rfl := List.mem_singleton.mp hrow
      exact ⟨rfl, List.nodup_nil⟩
  · obtain hrow | hrow := List.mem_append.mp hrow
    · exact h.entry row hrow
    · obtain rfl := List.mem_singleton.mp hrow
      exact ⟨_, hentry⟩
  · obtain hrow | hrow := List.mem_append.mp hrow
    · obtain ⟨ht, hi⟩ := h.drawn row hrow
      exact ⟨List.mem_cons_of_mem _ (List.mem_cons_of_mem _ ht),
        List.mem_cons_of_mem _ (List.mem_cons_of_mem _ hi)⟩
    · obtain rfl := List.mem_singleton.mp hrow
      exact ⟨List.mem_cons_of_mem _ List.mem_cons_self, List.mem_cons_self⟩
  · obtain rfl | hx := List.mem_cons.mp hx
    · exact List.mem_cons_of_mem _ List.mem_cons_self
    · rw [hkept] at hx
      exact List.mem_cons_of_mem _ (List.mem_cons_of_mem _ (h.drawnEntry x hx))
  · refine List.mem_cons.trans ?_
    rw [hkept, h.live x hx]
    constructor
    · rintro (rfl | ⟨row, hrow, hold⟩)
      · exact ⟨_, List.mem_append_right _ (List.mem_singleton_self _), hentry⟩
      · exact ⟨row, List.mem_append_left _ hrow, hold⟩
    · rintro ⟨row, hrow, hrowEntry⟩
      obtain hrow | hrow := List.mem_append.mp hrow
      · exact .inr ⟨row, hrow, hrowEntry⟩
      · obtain rfl := List.mem_singleton.mp hrow
        exact .inl (hrowEntry.unique hentry)

/-- The row of a session is inserted, for a user that exists. -/
lemma exec_insert (h : SameSessions known w v) {token id : Uuid} {u : UserId} {expiresAt : Time}
    {kind : SessionKind} {pairId : Option Uuid} (hu : known u)
    (hfresh : (id :: token :: w.minted).Nodup) {r : Except SessionError SessionToken} {w' : World} :
    Prog.Exec (Env noFault)
        (((execute (.insertSession id ⟨token⟩ u kind pairId expiresAt)).mapErr SessionError.ofSqlx) >>=
          fun _ => pure (⟨token⟩ : SessionToken))
        { w with minted := id :: token :: w.minted } r w' ↔
      r = .ok ⟨token⟩ ∧ w' = w.withSession id token u expiresAt kind pairId := by
  obtain ⟨hrows, -⟩ := h.fresh hfresh
  have hnoId : ¬ w.db.sessions.any (·.id = id) = true := fun hany => by
    obtain ⟨row, hrow, heq⟩ := List.any_eq_true.mp hany
    exact (hrows row hrow).2 (of_decide_eq_true heq)
  have hnoToken : ¬ w.db.sessions.any (·.token = ⟨token⟩) = true := fun hany => by
    obtain ⟨row, hrow, heq⟩ := List.any_eq_true.mp hany
    exact (hrows row hrow).1 (of_decide_eq_true heq)
  have hinsert : (Update.insertSession id ⟨token⟩ u kind pairId expiresAt).exec w.now w.db =
      .ok ((), (w.withSession id token u expiresAt kind pairId).db) := by
    change insertSession id ⟨token⟩ u kind.asStr pairId expiresAt w.now w.db = _
    unfold insertSession
    rw [if_neg hnoId, if_neg hnoToken, if_neg (not_not.mpr (h.users u hu))]
    rfl
  exact exec_bind_noFault fun _ _ =>
    exec_execute_noFault (w := { w with minted := id :: token :: w.minted }) hinsert

/-- **The database simulates an operation in memory and the other way round.** -/
theorem call (h : SameSessions known w v) {c : PortCall} (hc : c.IsFor known) :
    (∀ a w', c.pgReplies w a w' → w'.minted.Nodup → ∃ b v', c.fakeReplies v b v' ∧
      v'.minted.Nodup ∧ b.view = a.view ∧ SameSessions known w' v') ∧
    ∀ b v', c.fakeReplies v b v' → v'.minted.Nodup → ∃ a w', c.pgReplies w a w' ∧
      w'.minted.Nodup ∧ a.view = b.view ∧ SameSessions known w' v' := by
  by_cases hcreate : ∃ u expiresAt kind pairId, c = .createWithKind u expiresAt kind pairId
  · obtain ⟨u, expiresAt, kind, pairId, rfl⟩ := hcreate
    constructor
    · rintro a w' ⟨r, rfl, hx⟩ hfresh
      obtain ⟨token, id, hx⟩ := exec_createWithKind_noFault.mp hx
      have hdrawn : id :: token :: w.minted <:+ w'.minted :=
        Prog.Exec.rel (R := fun w w' => w.minted <:+ w'.minted) (fun _ => List.suffix_refl _)
          List.IsSuffix.trans (fun _ _ _ _ _ hq => hq.minted) (Prog.all_true _) hx
      have hnew : (id :: token :: w.minted).Nodup := hfresh.sublist hdrawn.sublist
      obtain ⟨rfl, rfl⟩ := (h.exec_insert hc hnew).mp hx
      refine ⟨_, _, ⟨⟨token⟩, id, rfl, rfl⟩, ?_, rfl, h.created hnew⟩
      exact h.minted ▸ hnew
    · rintro b v' ⟨⟨token⟩, id, rfl, rfl⟩ hfresh
      have hnew : (id :: token :: w.minted).Nodup := h.minted ▸ hfresh
      refine ⟨.token (.ok ⟨token⟩), w.withSession id token u expiresAt kind pairId, ⟨_, rfl, ?_⟩,
        hnew, rfl, h.created hnew⟩
      exact exec_createWithKind_noFault.mpr ⟨token, id, (h.exec_insert hc hnew).mpr ⟨rfl, rfl⟩⟩
  · obtain ⟨a, w', halike⟩ := h.answeredAlike fun u expiresAt kind pairId heq =>
      hcreate ⟨u, expiresAt, kind, pairId, heq⟩
    constructor
    · intro a' w₁ hx _
      obtain ⟨rfl, rfl⟩ := (halike.pg _ _).mp hx
      obtain ⟨b, v', hfake⟩ := halike.answered
      obtain ⟨hview, hsame⟩ := halike.fake b v' hfake
      exact ⟨b, v', hfake, hsame.minted ▸ hsame.distinct, hview, hsame⟩
    · intro b v' hfake _
      obtain ⟨hview, hsame⟩ := halike.fake b v' hfake
      exact ⟨a, w', (halike.pg _ _).mpr ⟨rfl, rfl⟩, hsame.distinct, hview.symm, hsame⟩

end SameSessions

/-! ## The stores look the same -/

section Traces

variable {known : UserId → Prop} {cleanup : Prop}

/-- **The store in memory simulates the database**; deleting expired sessions is matched by
nothing. -/
theorem simulates_fake : Simulates (PgStep known cleanup) PortLabel.view (FakeStep known)
    PortLabel.view (SameSessions known) := by
  intro w l w' v h hstep
  cases hstep with
  | @call c a _ _ hc hx hfresh =>
    obtain ⟨b, v', hfake, hfresh', hview, hsame⟩ := (h.call hc).1 a w' hx hfresh
    refine .inr ⟨some (c, b), v', .call hc hfake hfresh', ?_, hsame⟩
    exact congrArg (fun x => some (c, x)) hview
  | tick hlater =>
    obtain ⟨t, ht, rfl⟩ := hlater
    exact .inr ⟨none, _, .tick (h.now.symm ▸ ht), rfl, h.tick ht⟩
  | purge _ hkeep => exact .inl ⟨rfl, h.purge hkeep⟩

/-- **The database simulates the store in memory.** -/
theorem simulates_pg : Simulates (FakeStep known) PortLabel.view (PgStep known cleanup)
    PortLabel.view (fun v w => SameSessions known w v) := by
  intro v l v' w h hstep
  cases hstep with
  | @call c b _ _ hc hx hfresh =>
    obtain ⟨a, w', hpg, hfresh', hview, hsame⟩ := (h.call hc).2 b v' hx hfresh
    refine .inr ⟨some (c, a), w', .call hc hpg hfresh', ?_, hsame⟩
    exact congrArg (fun x => some (c, x)) hview
  | @tick _ t ht =>
    have ht' : w.now ≤ t := h.now ▸ ht
    exact .inr ⟨none, _, .tick ⟨t, ht', rfl⟩, rfl, h.tick ht'⟩

/-- The stores have the same traces. -/
lemma traces_eq {w₀ : World} (hempty : w₀.db.sessions = []) (hminted : w₀.minted.Nodup)
    (husers : ∀ u, known u → w₀.db.users.any (·.id = u) = true) :
    Run.Traces (· = w₀) (PgStep known cleanup) PortLabel.view =
      Run.Traces (· = w₀.fake) (FakeStep known) PortLabel.view := by
  refine Run.traces_eq simulates_fake simulates_pg ?_ ?_
  · rintro w rfl
    exact ⟨w.fake, rfl, .initial hempty hminted husers⟩
  · rintro v rfl
    exact ⟨w₀, rfl, .initial hempty hminted husers⟩

end Traces

/-- **The two stores look the same**: from a database without sessions, whatever is done for users
that exist, at whatever times in whole microseconds, the store over the database can show exactly
what the one in memory can show, whether or not expired sessions are deleted from the database; and
so a cleanup job cannot be noticed through the port.

**Proof sketch.** The states have the same sessions alive.  Every operation is answered alike from
such states, and leads to such states again; the expressions of the two stores on snapshots agree
because no session has a tenant twice. -/
theorem fake_session_store {w₀ : World} (hempty : w₀.db.sessions = []) (hminted : w₀.minted.Nodup) :
    (∀ cleanup : Prop,
      Run.Traces (· = w₀) (PgStep (fun u => ∃ row ∈ w₀.db.users, row.id = u) cleanup) PortLabel.view =
        Run.Traces (· = w₀.fake) (FakeStep fun u => ∃ row ∈ w₀.db.users, row.id = u)
          PortLabel.view) ∧
    Run.Traces (· = w₀) (PgStep (fun u => ∃ row ∈ w₀.db.users, row.id = u) True) PortLabel.view =
      Run.Traces (· = w₀) (PgStep (fun u => ∃ row ∈ w₀.db.users, row.id = u) False)
        PortLabel.view := by
  have husers : ∀ u, (∃ row ∈ w₀.db.users, row.id = u) → w₀.db.users.any (·.id = u) = true := by
    rintro u ⟨row, hrow, rfl⟩
    exact List.any_eq_true.mpr ⟨row, hrow, decide_eq_true rfl⟩
  refine ⟨fun cleanup => traces_eq hempty hminted husers, ?_⟩
  exact (traces_eq hempty hminted husers).trans (traces_eq hempty hminted husers).symm

/-- A platform with users and no sessions. -/
theorem fake_session_store_world :
    (∀ cleanup : Prop,
      Run.Traces (· = Scenario.world)
          (PgStep (fun u => ∃ row ∈ Scenario.world.db.users, row.id = u) cleanup) PortLabel.view =
        Run.Traces (· = Scenario.world.fake)
          (FakeStep fun u => ∃ row ∈ Scenario.world.db.users, row.id = u) PortLabel.view) ∧
    Run.Traces (· = Scenario.world)
        (PgStep (fun u => ∃ row ∈ Scenario.world.db.users, row.id = u) True) PortLabel.view =
      Run.Traces (· = Scenario.world)
        (PgStep (fun u => ∃ row ∈ Scenario.world.db.users, row.id = u) False) PortLabel.view :=
  fake_session_store rfl List.nodup_nil

end Klynt
