import Klynt.Lib.Run
import Klynt.Persistence.SnapshotEdit
import Klynt.System.StoreRun

set_option relaxedAutoImplicit false
set_option autoImplicit false

/-!
# The snapshots of a session as a finite map

The snapshots of a session stand for a finite map from tenants to roles.  The coordinator over
the database handles membership events one after another, while the clock moves.  Each session
follows the events of its user that happen before it expires, and no other.

## Main definitions

* `MembershipSnapshot.toMap`, `MembershipEvent.apply` — snapshots as a finite map, and an event
  on the map.
* `EventStep` — the runs: an event is handled, or time passes.
* `felt` — the events a session follows.

## Main results

* `MembershipEvent.toMap_edit` — the edit of the list is the event on the map.
* `snapshot_algebra` — after any run every session has the map that replaying gives.
-/

namespace Klynt

/-! ## Finite maps -/

/-- Roles by tenant. -/
abbrev RoleMap : Type := Finmap fun _ : Uuid => TenantRole

/-- The finite map a list of snapshots stands for. -/
def MembershipSnapshot.toMap (l : List MembershipSnapshot) : RoleMap :=
  Keyed.toMap (·.tenantId) (·.role) l

namespace MembershipEvent

/-- An event on the finite map: an upsert, an update if present, or a deletion. -/
def apply (m : RoleMap) : MembershipEvent → RoleMap
  | added t _ role => m.insert t.inner role
  | updated t _ role => if t.inner ∈ m then m.insert t.inner role else m
  | removed t _ => m.erase t.inner

/-- The map after events, the latest of which comes first. -/
def replay (m : RoleMap) (events : List MembershipEvent) : RoleMap :=
  events.foldr (fun e m => e.apply m) m

/-- **The edit of the list is the event on the map.** -/
theorem toMap_edit (e : MembershipEvent) (l : List MembershipSnapshot) :
    MembershipSnapshot.toMap (e.edit l) = e.apply (MembershipSnapshot.toMap l) := by
  cases e with
  | added t u role => exact Keyed.toMap_upsert _ _ _ _
  | updated t u role =>
    exact Keyed.toMap_modify _ _ (f := fun s : MembershipSnapshot => { s with role })
      (fun _ => rfl) (fun _ => rfl) _ _
  | removed t u => exact Keyed.toMap_erase _ _ _ _

end MembershipEvent

/-! ## Runs -/

/-- The coordinator over the database. -/
def pgCoordinator : SessionCoordinator := ⟨true, PgSessionStore.store⟩

/-- A step of a run: an event is handled, with an outcome, or time passes. -/
inductive EventStep :
    World → Option (MembershipEvent × Except SessionCoordinatorError Unit) → World → Prop
  /-- An event is handled. -/
  | handle {e : MembershipEvent} {r : Except SessionCoordinatorError Unit} {w w' : World}
      (hx : (pgCoordinator.handleMembershipEvent e).Exec (Env noFault) w r w') :
      EventStep w (some (e, r)) w'
  /-- Time passes. -/
  | tick {w w' : World} (h : w.Later w') : EventStep w none w'

/-- The history of a run. -/
abbrev EventHistory : Type :=
  List (World × Option (MembershipEvent × Except SessionCoordinatorError Unit))

/-- The events of a history, latest first, that happened to the user of a session before it
expired. -/
def felt (row : SessionRow) (tr : EventHistory) : List MembershipEvent :=
  tr.filterMap fun x => x.2.bind fun l =>
    if row.userId = l.1.userId ∧ row.active x.1.now then some l.1 else none

/-- The events of a history, latest first, that happened to a user. -/
def eventsOf (u : UserId) (tr : EventHistory) : List MembershipEvent :=
  tr.filterMap fun x => x.2.bind fun l => if u = l.1.userId then some l.1 else none

/-- A session whose column stores snapshots without a tenant occurring twice. -/
structure SessionRow.Clean (row : SessionRow) : Prop where
  /-- The column holds the stored form of the snapshots. -/
  stored : row.Stored
  /-- No tenant occurs twice. -/
  nodup : (row.snapshots.map (·.tenantId)).Nodup

/-- A session after the events of a history. -/
structure SessionRow.Followed (tr : EventHistory) (row row' : SessionRow) : Prop where
  /-- Only the snapshots are other ones. -/
  same : row' = row.withSnapshots row'.snapshots
  /-- No tenant occurs twice. -/
  clean : row'.Clean
  /-- The snapshots are those of the replayed events. -/
  replayed : MembershipSnapshot.toMap row'.snapshots =
    MembershipEvent.replay (MembershipSnapshot.toMap row.snapshots) (felt row tr)
  /-- A session without such events is as it was. -/
  untouched : felt row tr = [] → row' = row

section Run

variable {w₀ w w' : World} {tr : EventHistory} {row row' : SessionRow}

/-- An event keeps sessions clean. -/
theorem SessionRow.Clean.editRow (h : row.Clean) (e : MembershipEvent) (now : Time) :
    (e.editRow now row).Clean := by
  refine ⟨e.editRow_stored now h.stored, ?_⟩
  unfold MembershipEvent.editRow
  split
  · simpa using e.nodup_edit h.nodup
  · exact h.nodup

/-- **One event** is handled without an error and edits the active sessions of its user. -/
theorem exec_handleMembershipEvent {e : MembershipEvent} {r : Except SessionCoordinatorError Unit}
    (hw : ∀ row ∈ w.db.sessions, row.Clean)
    (hx : (pgCoordinator.handleMembershipEvent e).Exec (Env noFault) w r w') :
    r = .ok () ∧ w' = { w with db := { w.db with sessions := w.db.sessions.map (e.editRow w.now) } } := by
  have hstored : ∀ row ∈ w.db.sessions, row.Stored := fun row hrow => (hw row hrow).stored
  obtain ⟨res, hstatement⟩ : ∃ res, e.statement.exec w.now w.db =
      .ok (res, { w.db with sessions := w.db.sessions.map (e.editRow w.now) }) :=
    e.exec_statement hstored
  have hensures : (pgCoordinator.handleMembershipEvent e).Ensures (Env noFault)
      (fun r w' => r = .ok () ∧
        w' = { w with db := { w.db with sessions := w.db.sessions.map (e.editRow w.now) } }) w := by
    refine SessionCoordinator.ensures_handleMembershipEvent_pg (fun res' db h => ?_) fun err h => ?_
    · rw [hstatement] at h
      obtain ⟨-, rfl⟩ := Prod.mk.inj (Except.ok.inj h)
      exact ⟨rfl, rfl⟩
    · rcases h with hF | ⟨e', he'⟩
      · exact hF.elim
      · rw [hstatement] at he'; cases he'
  exact hensures.of_exec hx

/-- A session that followed a history follows it with one more event. -/
theorem SessionRow.Followed.editRow {e : MembershipEvent} {r : Except SessionCoordinatorError Unit}
    (h : row.Followed tr row') : row.Followed ((w, some (e, r)) :: tr) (e.editRow w.now row') := by
  have huser : row'.userId = row.userId := by rw [h.same]; rfl
  have hactive : row'.active w.now = row.active w.now := by rw [h.same]; rfl
  have hfelt : felt row ((w, some (e, r)) :: tr) =
      if row.userId = e.userId ∧ row.active w.now then e :: felt row tr else felt row tr := by
    simp only [felt, List.filterMap_cons, Option.bind_some]
    split_ifs <;> rfl
  refine ⟨?_, h.clean.editRow e w.now, ?_, ?_⟩
  · calc e.editRow w.now row'
      _ = row'.withSnapshots (e.editRow w.now row').snapshots := e.editRow_eq w.now h.clean.stored
      _ = (row.withSnapshots row'.snapshots).withSnapshots (e.editRow w.now row').snapshots := by
        rw [← h.same]
      _ = row.withSnapshots (e.editRow w.now row').snapshots := rfl
  · rw [hfelt, MembershipEvent.editRow, huser, hactive]
    split
    · rw [SessionRow.snapshots_withSnapshots, MembershipEvent.toMap_edit, h.replayed]
      rfl
    · exact h.replayed
  · rw [hfelt, MembershipEvent.editRow, huser, hactive]
    split
    · intro hnil
      cases hnil
    · exact h.untouched

/-- Every session follows its events. -/
theorem followed_of_run (h₀ : ∀ row ∈ w₀.db.sessions, row.Clean) (hr : Run (· = w₀) EventStep tr w) :
    List.Forall₂ (SessionRow.Followed tr) w₀.db.sessions w.db.sessions := by
  induction hr with
  | start hi =>
    subst hi
    refine List.forall₂_same.mpr fun row hrow => ?_
    exact ⟨(h₀ row hrow).stored.withSnapshots.symm, h₀ row hrow, rfl, fun _ => rfl⟩
  | @snoc tr w w' l hrun hstep ih =>
    cases hstep with
    | tick hlater =>
      obtain ⟨n, -, rfl⟩ := hlater
      exact ih.imp fun row row' h => ⟨h.same, h.clean, h.replayed, h.untouched⟩
    | handle hx =>
      have hclean : ∀ row' ∈ w.db.sessions, row'.Clean := fun row' hrow' => by
        obtain ⟨row, -, h⟩ := ih.exists_left hrow'
        exact h.clean
      obtain ⟨-, rfl⟩ := exec_handleMembershipEvent hclean hx
      exact List.forall₂_map_right_iff.mpr (ih.imp fun row row' h => h.editRow)

/-- The sessions of a run are clean. -/
theorem clean_of_run (h₀ : ∀ row ∈ w₀.db.sessions, row.Clean) (hr : Run (· = w₀) EventStep tr w) :
    ∀ row ∈ w.db.sessions, row.Clean := by
  intro row' hrow'
  obtain ⟨row, -, h⟩ := (followed_of_run h₀ hr).exists_left hrow'
  exact h.clean

/-- Events are handled between the start and the end of a run, without an error. -/
theorem handled_of_run (h₀ : ∀ row ∈ w₀.db.sessions, row.Clean) (hr : Run (· = w₀) EventStep tr w) :
    w₀.now ≤ w.now ∧ ∀ x ∈ tr, w₀.now ≤ x.1.now ∧ x.1.now ≤ w.now ∧
      ∀ e r, x.2 = some (e, r) → r = .ok () := by
  induction hr with
  | start hi =>
    subst hi
    exact ⟨le_rfl, fun x hx => absurd hx List.not_mem_nil⟩
  | @snoc tr w w' l hrun hstep ih =>
    obtain ⟨hnow, hpast⟩ := ih
    have hstep' : w.now ≤ w'.now ∧ ∀ e r, l = some (e, r) → r = .ok () := by
      cases hstep with
      | tick hlater =>
        obtain ⟨n, hn, rfl⟩ := hlater
        exact ⟨hn, fun _ _ he => by cases he⟩
      | handle hx =>
        obtain ⟨rfl, rfl⟩ := exec_handleMembershipEvent (clean_of_run h₀ hrun) hx
        refine ⟨le_rfl, fun e r he => ?_⟩
        cases he
        rfl
    refine ⟨hnow.trans hstep'.1, fun x hx => ?_⟩
    rcases List.mem_cons.mp hx with rfl | hx
    · exact ⟨hnow, hstep'⟩
    · obtain ⟨hle, hle', hok⟩ := hpast x hx
      exact ⟨hle, hle'.trans hstep'.1, hok⟩

/-- A session that is not expired at the end follows all events of its user. -/
theorem felt_of_active (h₀ : ∀ row ∈ w₀.db.sessions, row.Clean) (hr : Run (· = w₀) EventStep tr w)
    (hactive : w.now < row.expiresAt) : felt row tr = eventsOf row.userId tr := by
  refine List.filterMap_congr fun x hx => ?_
  have hnow : x.1.now < row.expiresAt :=
    lt_of_le_of_lt ((handled_of_run h₀ hr).2 x hx).2.1 hactive
  have hrow : row.active x.1.now = true := decide_eq_true hnow
  simp only [hrow, and_true]

/-- A session that was expired at the start follows no event. -/
theorem felt_of_expired (h₀ : ∀ row ∈ w₀.db.sessions, row.Clean) (hr : Run (· = w₀) EventStep tr w)
    (hexpired : row.expiresAt ≤ w₀.now) : felt row tr = [] := by
  refine List.filterMap_eq_nil_iff.mpr fun x hx => ?_
  have hnow : ¬ x.1.now < row.expiresAt :=
    not_lt.mpr (hexpired.trans ((handled_of_run h₀ hr).2 x hx).1)
  have hrow : row.active x.1.now = false := decide_eq_false hnow
  simp [hrow]

/-- A session of a user without events follows none. -/
theorem felt_of_eventsOf (h : eventsOf row.userId tr = []) : felt row tr = [] := by
  refine List.filterMap_eq_nil_iff.mpr fun x hx => ?_
  have hx := List.filterMap_eq_nil_iff.mp h x hx
  cases hl : x.2 with
  | none => rfl
  | some l =>
    rw [hl, Option.bind_some] at hx
    by_cases hu : row.userId = l.1.userId
    · rw [if_pos hu] at hx; cases hx
    · simp [hu]

/-- **The snapshot algebra.**  Start from sessions whose stored snapshots have no tenant twice,
and let the coordinator handle any events while time passes.  No event fails; every session keeps
all its other columns and has no tenant twice; one that has not expired has the finite map that
replaying all events of its user gives; one that expires on the way has the map of the events
before that; and one that was expired, or whose user had no event, is as it was.

**Proof sketch.** Each expression edits the list of snapshots by tenant (`exec_statement`), and
an edit of the list is the event on the map (`toMap_edit`).  Induction on the run. -/
theorem snapshot_algebra (h₀ : ∀ row ∈ w₀.db.sessions, row.Clean)
    (hr : Run (· = w₀) EventStep tr w) :
    (∀ x ∈ tr, ∀ e r, x.2 = some (e, r) → r = .ok ()) ∧
      List.Forall₂ (fun row row' => row.Followed tr row' ∧
        (w.now < row.expiresAt → MembershipSnapshot.toMap row'.snapshots =
          MembershipEvent.replay (MembershipSnapshot.toMap row.snapshots) (eventsOf row.userId tr)) ∧
        (row.expiresAt ≤ w₀.now ∨ eventsOf row.userId tr = [] → row' = row))
      w₀.db.sessions w.db.sessions := by
  refine ⟨fun x hx => ((handled_of_run h₀ hr).2 x hx).2.2, (followed_of_run h₀ hr).imp ?_⟩
  intro row row' h
  refine ⟨h, fun hactive => ?_, fun hnone => h.untouched ?_⟩
  · rw [h.replayed, felt_of_active h₀ hr hactive]
  · rcases hnone with hexpired | hevents
    · exact felt_of_expired h₀ hr hexpired
    · exact felt_of_eventsOf hevents

end Run

namespace Scenario

/-- A session of the first user that carries one membership. -/
def member : SessionRow :=
  { id := 1, token := ⟨0⟩, userId := ⟨901⟩, expiresAt := 10, createdAt := 0,
    tenantMemberships := MembershipSnapshot.encode [⟨7, .member⟩], kind := "access",
    pairId := none }

/-- The platform with that session. -/
def signedIn : World := { world with db := { db with sessions := [member] } }

/-- Its session is clean. -/
theorem clean_signedIn : ∀ row ∈ signedIn.db.sessions, row.Clean := by
  intro row hrow
  obtain rfl := List.mem_singleton.mp hrow
  refine ⟨?_, ?_⟩
  · simp [SessionRow.Stored, SessionRow.snapshots, member]
  · simp [SessionRow.snapshots, member]

/-- The platform after some events, latest first. -/
def handled : List MembershipEvent → World
  | [] => signedIn
  | e :: earlier =>
    ((pgCoordinator.handleMembershipEvent e).eval World.answer (handled earlier)).2

/-- Handling events is a run. -/
theorem run_handled (events : List MembershipEvent) :
    ∃ tr, Run (· = signedIn) EventStep tr (handled events) ∧
      ∀ u, eventsOf u tr = events.filter (u = ·.userId) := by
  induction events with
  | nil => exact ⟨[], .start rfl, fun _ => rfl⟩
  | cons e earlier ih =>
    obtain ⟨tr, hr, hevents⟩ := ih
    refine ⟨_, hr.snoc (.handle (exec_answer rfl)), fun u => ?_⟩
    rw [List.filter_cons, ← hevents]
    simp only [eventsOf, List.filterMap_cons, Option.bind_some, decide_eq_true_eq]
    split_ifs <;> rfl

end Scenario

/-- The membership of a session is added again with another role, and one it lacks is
updated. -/
theorem snapshot_algebra_again :
    ∃ row' ∈ (Scenario.handled [.updated ⟨8⟩ ⟨901⟩ .guest, .added ⟨7⟩ ⟨901⟩ .owner]).db.sessions,
      row'.Clean ∧ MembershipSnapshot.toMap row'.snapshots =
        MembershipSnapshot.toMap [⟨7, .owner⟩] := by
  obtain ⟨tr, hr, hevents⟩ :=
    Scenario.run_handled [.updated ⟨8⟩ ⟨901⟩ .guest, .added ⟨7⟩ ⟨901⟩ .owner]
  have hrows := (snapshot_algebra Scenario.clean_signedIn hr).2
  obtain ⟨row', hrow', hfollowed, hmap, -⟩ := hrows.exists_right (a := Scenario.member) (.head _)
  refine ⟨row', hrow', hfollowed.clean, (hmap ?_).trans ?_⟩
  · decide +kernel
  · rw [hevents]
    decide +kernel

end Klynt
