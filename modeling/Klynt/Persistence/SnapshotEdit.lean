import Klynt.Persistence.SessionFrame
import Klynt.Service.Session

set_option relaxedAutoImplicit false
set_option autoImplicit false

/-!
# The edits of stored snapshots

The column `tenant_memberships` holds the stored form of a list of snapshots.  On such columns
the expressions of the three statements are edits of the list by tenant, and the coordinator
turns a membership event into one of these statements.

## Main definitions

* `SessionRow.snapshots`, `SessionRow.Stored` — the snapshots of a row, and that its column
  holds their stored form.
* `MembershipEvent.edit`, `MembershipEvent.statement` — an event on a list of snapshots, and as
  a statement.

## Main results

* `MembershipSnapshot.addTo_encode`, `updateIn_encode`, `removeFrom_encode` — the expressions on
  stored lists.
* `MembershipEvent.exec_statement` — the statement of an event.
* `SessionCoordinator.ensures_handleMembershipEvent_pg` — the coordinator runs that statement.
-/

namespace Klynt

/-! ## The expressions on stored lists -/

namespace MembershipSnapshot

/-- The condition of the expressions on a stored snapshot. -/
@[simp] theorem isTenant_toJson (t : Uuid) (s : MembershipSnapshot) :
    isTenant (some t) s.toJson = .ok (s.tenantId == t) := by
  simp [isTenant, bind, Except.bind, pure, Except.pure]

/-- The elements of a stored list. -/
@[simp] theorem arrayElements_encode (l : List MembershipSnapshot) :
    (encode l).arrayElements = .ok (l.map toJson) := rfl

/-- Evaluating an expression that does not fail on the elements of a stored list. -/
theorem mapM_toJson {β : Type} {f : Json → Except String β} {g : MembershipSnapshot → β}
    (h : ∀ s : MembershipSnapshot, f s.toJson = .ok (g s)) (l : List MembershipSnapshot) :
    (l.map toJson).mapM f = .ok (l.map g) := by
  rw [Except.mapM_eq_ok, List.forall₂_map_left_iff, List.forall₂_map_right_iff, List.forall₂_same]
  exact fun s _ => h s

/-- **Adding a snapshot** replaces the snapshots of its tenant, or appends it. -/
theorem addTo_encode (s : MembershipSnapshot) (l : List MembershipSnapshot) :
    addTo s.toJson (encode l) = .ok (encode (Keyed.upsert (·.tenantId) s l)) := by
  have hrows := mapM_toJson (f := fun elem => do
      return if ← isTenant (some s.tenantId) elem then s.toJson else elem)
    (g := fun b => toJson (if b.tenantId = s.tenantId then s else b)) (fun b => by
      by_cases hb : b.tenantId = s.tenantId <;>
        simp [hb, bind, Except.bind, pure, Except.pure]) l
  have hhits := mapM_toJson (f := isTenant (some s.tenantId))
    (g := fun b => b.tenantId == s.tenantId) (isTenant_toJson _) l
  have hany : (l.map fun b => b.tenantId == s.tenantId).any id =
      decide (∃ b ∈ l, b.tenantId = s.tenantId) := by
    rw [Bool.eq_iff_iff]
    simp
  unfold addTo
  simp only [uuidAt_toJson, arrayElements_encode, Except.ok_bind]
  rw [hrows, Except.ok_bind, hhits, Except.ok_bind, hany]
  refine congrArg Except.ok ?_
  simp only [decide_eq_true_eq, encode, Keyed.upsert, List.map_append, List.map_map]
  split
  · rfl
  · rfl

/-- **Updating a tenant** changes the role of its snapshots. -/
theorem updateIn_encode (t : Uuid) (role : TenantRole) (l : List MembershipSnapshot) :
    updateIn t role.asStr (encode l) =
      .ok (encode (Keyed.modify (·.tenantId) t (fun s => { s with role }) l)) := by
  have hrows := mapM_toJson (f := fun elem => do
      if ← isTenant (some t) elem then elem.setMember "role" (.str role.asStr) else return elem)
    (g := fun b => toJson (if b.tenantId = t then { b with role } else b)) (fun b => by
      by_cases hb : b.tenantId = t <;> simp [hb, bind, Except.bind, pure, Except.pure]) l
  unfold updateIn
  rw [arrayElements_encode, Except.ok_bind, hrows, Except.ok_bind]
  simp only [encode, Keyed.modify, List.map_map]
  rfl

/-- **Removing a tenant** drops its snapshots. -/
theorem removeFrom_encode (t : Uuid) (l : List MembershipSnapshot) :
    removeFrom t (encode l) = .ok (encode (Keyed.erase (·.tenantId) t l)) := by
  have hkeep : (l.map fun b => if b.tenantId ≠ t then some b.toJson else none).reduceOption =
      (Keyed.erase (·.tenantId) t l).map toJson := by
    induction l with
    | nil => rfl
    | cons b l ih =>
      by_cases hb : b.tenantId = t
      · simpa [hb, Keyed.erase, List.reduceOption_cons_of_none] using ih
      · simpa [hb, Keyed.erase, List.reduceOption_cons_of_some] using ih
  have hrows := mapM_toJson (f := fun elem => do
      let other := (Json.sqlEq (← elem.uuidAt "tenant_id") (some t)).map (!·)
      return if Json.holds other then some elem else none)
    (g := fun b => if b.tenantId ≠ t then some b.toJson else none) (fun b => by
      by_cases hb : b.tenantId = t <;>
        simp [hb, Json.sqlEq, Json.holds, bind, Except.bind, pure, Except.pure]) l
  unfold removeFrom
  rw [arrayElements_encode, Except.ok_bind, hrows, Except.ok_bind, hkeep]
  rfl

end MembershipSnapshot

/-! ## Rows -/

/-- The snapshots of a session. -/
def SessionRow.snapshots (row : SessionRow) : List MembershipSnapshot :=
  (MembershipSnapshot.decode row.tenantMemberships).getD []

/-- The column of the row holds the stored form of its snapshots. -/
def SessionRow.Stored (row : SessionRow) : Prop :=
  row.tenantMemberships = MembershipSnapshot.encode row.snapshots

/-- The row with other snapshots. -/
def SessionRow.withSnapshots (row : SessionRow) (l : List MembershipSnapshot) : SessionRow :=
  { row with tenantMemberships := MembershipSnapshot.encode l }

section Rows

variable {row : SessionRow} {l : List MembershipSnapshot}

/-- The snapshots of a row are those it was given. -/
@[simp] theorem SessionRow.snapshots_withSnapshots : (row.withSnapshots l).snapshots = l := by
  simp [snapshots, withSnapshots]

/-- A row that was given snapshots stores them. -/
@[simp] theorem SessionRow.stored_withSnapshots : (row.withSnapshots l).Stored := by
  simp [Stored, withSnapshots, snapshots]

/-- A row that stores its snapshots is the row with them. -/
theorem SessionRow.Stored.withSnapshots (h : row.Stored) : row.withSnapshots row.snapshots = row := by
  unfold SessionRow.withSnapshots
  rw [← h]

/-- Snapshots given twice. -/
@[simp] theorem SessionRow.withSnapshots_withSnapshots (l' : List MembershipSnapshot) :
    (row.withSnapshots l).withSnapshots l' = row.withSnapshots l' := rfl

/-- Snapshots do not belong to the identity of a session. -/
@[simp] theorem SessionRow.userId_withSnapshots : (row.withSnapshots l).userId = row.userId := rfl

/-- Snapshots do not belong to the lifetime of a session. -/
@[simp] theorem SessionRow.active_withSnapshots (now : Time) :
    (row.withSnapshots l).active now = row.active now := rfl

end Rows

/-! ## Events -/

namespace MembershipEvent

/-- What an event does to the snapshots of an active session of its user. -/
def edit : MembershipEvent → List MembershipSnapshot → List MembershipSnapshot
  | added t _ role => Keyed.upsert (·.tenantId) ⟨t.inner, role⟩
  | updated t _ role => Keyed.modify (·.tenantId) t.inner fun s => { s with role }
  | removed t _ => Keyed.erase (·.tenantId) t.inner

/-- The statement an event leads to. -/
def statement : MembershipEvent → Update
  | added t u role => .addSnapshot u ⟨t.inner, role⟩
  | updated t u role => .updateSnapshot u ⟨t.inner, role⟩
  | removed t u => .removeSnapshot u t

/-- A session after an event. -/
def editRow (e : MembershipEvent) (now : Time) (row : SessionRow) : SessionRow :=
  if row.userId = e.userId ∧ row.active now then row.withSnapshots (e.edit row.snapshots) else row

/-- A session after an event differs in its snapshots at most. -/
theorem editRow_eq (e : MembershipEvent) (now : Time) {row : SessionRow} (h : row.Stored) :
    e.editRow now row = row.withSnapshots (e.editRow now row).snapshots := by
  unfold editRow
  split
  · simp
  · exact h.withSnapshots.symm

/-- A session after an event stores its snapshots. -/
theorem editRow_stored (e : MembershipEvent) (now : Time) {row : SessionRow} (h : row.Stored) :
    (e.editRow now row).Stored := by
  unfold editRow
  split
  · simp
  · exact h

/-- No edit duplicates a tenant. -/
theorem nodup_edit (e : MembershipEvent) {l : List MembershipSnapshot}
    (h : (l.map (·.tenantId)).Nodup) : ((e.edit l).map (·.tenantId)).Nodup := by
  cases e with
  | added t u role => exact Keyed.nodup_upsert _ h
  | updated t u role => exact Keyed.nodup_modify _ (f := fun s => { s with role }) (fun _ => rfl) h
  | removed t u => exact Keyed.nodup_erase _ h

/-- Edits of rows one by one. -/
theorem editSessionMemberships_eq {f : Json → Except String Json} {u : UserId} {now : Time}
    {db : Db} {g : SessionRow → SessionRow}
    (hedit : ∀ row ∈ db.sessions, row.userId = u ∧ row.active now →
      ∃ column, f row.tenantMemberships = .ok column ∧ g row = { row with tenantMemberships := column })
    (hrest : ∀ row ∈ db.sessions, ¬ (row.userId = u ∧ row.active now) → g row = row) :
    editSessionMemberships f u now db = .ok ((), { db with sessions := db.sessions.map g }) := by
  have hmapM : (db.sessions.mapM fun s =>
      if s.userId = u ∧ s.active now then do
        return { s with tenantMemberships := ← f s.tenantMemberships }
      else return s) = (.ok (db.sessions.map g) : Except String (List SessionRow)) := by
    rw [Except.mapM_eq_ok, List.forall₂_map_right_iff, List.forall₂_same]
    intro row hrow
    split
    · rename_i hactive
      obtain ⟨column, hcolumn, hg⟩ := hedit row hrow hactive
      rw [hg, hcolumn]
      rfl
    · rename_i hactive
      rw [hrest row hrow hactive]
      rfl
  simp only [editSessionMemberships, hmapM]

/-- **The statement of an event** edits the active sessions of its user, if all sessions store
their snapshots. -/
theorem exec_statement (e : MembershipEvent) {now : Time} {db : Db}
    (h : ∀ row ∈ db.sessions, row.Stored) :
    ∃ r, e.statement.exec now db = .ok (r, { db with sessions := db.sessions.map (e.editRow now) }) := by
  have hrows : ∀ {f : Json → Except String Json},
      (∀ l, f (MembershipSnapshot.encode l) = .ok (MembershipSnapshot.encode (e.edit l))) →
      editSessionMemberships f e.userId now db =
        .ok ((), { db with sessions := db.sessions.map (e.editRow now) }) := by
    intro f hf
    refine editSessionMemberships_eq (fun row hrow hactive => ?_) fun row _ hactive => if_neg hactive
    refine ⟨_, ?_, if_pos hactive⟩
    rw [h row hrow]
    exact hf _
  cases e with
  | added t u role => exact ⟨(), hrows (MembershipSnapshot.addTo_encode _)⟩
  | updated t u role => exact ⟨(), hrows (MembershipSnapshot.updateIn_encode _ _)⟩
  | removed t u => exact ⟨(), hrows (MembershipSnapshot.removeFrom_encode _)⟩

end MembershipEvent

/-! ## The coordinator -/

/-- The snapshot of a new membership. -/
theorem SessionCoordinator.ensures_snapshotOf {F : Req → Prop} {w : World} {t : TenantId}
    {u : UserId} {role : TenantRole} {Q : Except SessionError MembershipSnapshot → World → Prop}
    (h : Q (.ok ⟨t.inner, role⟩) w) : (snapshotOf t u role).Ensures (Env F) Q w := by
  refine Prog.wp_bind.mpr (Prog.ensures_ask.mpr ?_)
  rintro joinedAt w' ⟨-, rfl⟩
  exact Prog.wp_pure.mpr h

/-- **The coordinator over the database** issues the statement of an event; what it does
before that changes nothing. -/
theorem SessionCoordinator.ensures_handleMembershipEvent_pg {F : Req → Prop} {w : World}
    {e : MembershipEvent} {Q : Except SessionCoordinatorError Unit → World → Prop}
    (hok : ∀ r db, e.statement.exec w.now w.db = .ok (r, db) → Q (.ok ()) { w with db })
    (herr : ∀ err, (F (.update e.statement) ∨ ∃ e', e.statement.exec w.now w.db = .error e') →
      Q (.error err) w) :
    (handleMembershipEvent ⟨true, PgSessionStore.store⟩ e).Ensures (Env F) Q w := by
  have hexecute : (execute e.statement).Ensures (Env F) (fun r w' => match r with
      | .ok _ => Q (.ok ()) w'
      | .error _ => ∀ err, Q (.error err) w') w := by
    refine Prog.ensures_ask.mpr ?_
    rintro a w' (⟨r, db, hx, rfl, rfl⟩ | ⟨e', hx, rfl, rfl⟩ | ⟨hF, ⟨m, rfl⟩, rfl⟩)
    · exact hok r db hx
    · exact fun err => herr err (.inr ⟨e', hx⟩)
    · exact fun err => herr err (.inl hF)
  cases e with
  | added t u role =>
    refine Prog.wp_mapErr.mpr (Prog.wp_bind.mpr (ensures_snapshotOf (Prog.wp_mapErr.mpr ?_)))
    exact hexecute.mono fun r w' h => match r, h with
      | .ok _, h => h
      | .error _, h => h _
  | updated t u role =>
    refine Prog.wp_mapErr.mpr (Prog.wp_bind.mpr (ensures_snapshotOf (Prog.wp_mapErr.mpr ?_)))
    exact hexecute.mono fun r w' h => match r, h with
      | .ok _, h => h
      | .error _, h => h _
  | removed t u =>
    refine Prog.wp_mapErr.mpr (Prog.wp_mapErr.mpr ?_)
    exact hexecute.mono fun r w' h => match r, h with
      | .ok _, h => h
      | .error _, h => h _

end Klynt
