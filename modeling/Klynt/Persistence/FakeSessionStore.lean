import Klynt.Persistence.SnapshotEdit

set_option relaxedAutoImplicit false
set_option autoImplicit false

/-!
# The session store of the tests

The services are tested with a store in memory: a map from tokens to sessions behind a lock.  It
reads the system clock, and draws a token and a public id for every session.

## Main definitions

* `StoredSession`, `FakeSessionStore` — the map.
* `PortCall`, `PortReply` — the operations of the port, and what they return.
* `PortCall.fakeReplies` — the operations of the store in memory.
* `PortCall.pgReplies` — those of the store over the database.

## Main results

* `FakeSessionStore.addTo_eq`, `FakeSessionStore.updateIn_eq` — the edits of the map are those of
  the database, unless a tenant occurs twice.

## Implementation notes

The order in which a hash map is traversed is not specified, so that `list_active_by_user` may
return its sessions in any order, and `revoke_by_id` finds any of the sessions it looks for.  The
store does not override `update_memberships`, whose default does nothing, and so it has no operation
of that name here.  The ends of sessions are whole microseconds here, which both stores keep; of a
finer one the database would keep the microseconds only.
-/

namespace Klynt

/-! ## The map -/

/-- A session with its public id. -/
structure StoredSession where
  /-- The session. -/
  session : Session
  /-- The id that is shown to users. -/
  publicId : Uuid

/-- The store in memory: a session for each of some tokens. -/
structure FakeSessionStore where
  /-- The entries of the map. -/
  sessions : List (SessionToken × StoredSession)
  /-- A token has one session. -/
  tokens : (sessions.map (·.1)).Nodup

/-- `Session::is_expired`. -/
def Session.isExpired (session : Session) (now : Time) : Bool := session.expiresAt ≤ now

namespace FakeSessionStore

/-- `FakeSessionStore::new`. -/
def new : FakeSessionStore := ⟨[], List.nodup_nil⟩

variable (store : FakeSessionStore) (now : Time)

/-- The entries that satisfy a condition, as `HashMap::retain` and `HashMap::remove` leave them. -/
def retain (p : SessionToken × StoredSession → Bool) : FakeSessionStore :=
  ⟨store.sessions.filter p, store.tokens.sublist (List.filter_sublist.map _)⟩

/-- `HashMap::insert`. -/
def insert (token : SessionToken) (stored : StoredSession) : FakeSessionStore where
  sessions := (token, stored) :: store.sessions.filter (·.1 ≠ token)
  tokens := by
    refine List.nodup_cons.mpr ⟨fun hmem => ?_, store.tokens.sublist (List.filter_sublist.map _)⟩
    obtain ⟨x, hx, heq⟩ := List.mem_map.mp hmem
    exact of_decide_eq_true (List.mem_filter.mp hx).2 heq

/-- `mutate_memberships`. -/
def mutateMemberships (u : UserId) (f : List MembershipSnapshot → List MembershipSnapshot) :
    FakeSessionStore where
  sessions := store.sessions.map fun x =>
    if x.2.session.userId = u then
      (x.1, { x.2 with
        session := { x.2.session with tenantMemberships := f x.2.session.tenantMemberships } })
    else x
  tokens := by
    have hsame : (store.sessions.map fun x => if x.2.session.userId = u then
        (x.1, { x.2 with
          session := { x.2.session with tenantMemberships := f x.2.session.tenantMemberships } })
        else x).map (·.1) = store.sessions.map (·.1) := by
      rw [List.map_map]
      refine List.map_congr_left fun x _ => ?_
      simp only [Function.comp_apply]
      split
      · rfl
      · rfl
    rw [hsame]
    exact store.tokens

/-- `find_valid`. -/
def findValid (token : SessionToken) : Option Session :=
  ((store.sessions.find? (·.1 = token)).map (·.2.session)).filter (¬ ·.isExpired now)

/-- `add_membership`, on the snapshots of a session: the first one of the tenant changes its role,
and a new one is appended if there is none. -/
def addTo (s : MembershipSnapshot) : List MembershipSnapshot → List MembershipSnapshot
  | [] => [s]
  | b :: l => if b.tenantId = s.tenantId then { b with role := s.role } :: l else b :: addTo s l

/-- `update_membership_for_user`, on the snapshots of a session. -/
def updateIn (s : MembershipSnapshot) : List MembershipSnapshot → List MembershipSnapshot
  | [] => []
  | b :: l => if b.tenantId = s.tenantId then { b with role := s.role } :: l else b :: updateIn s l

/-- The summary of an entry, as `list_active_by_user` builds it. -/
def summary (x : SessionToken × StoredSession) : SessionSummary :=
  { id := x.2.publicId, userId := x.2.session.userId, kind := x.2.session.kind.asStr,
    createdAt := now, expiresAt := x.2.session.expiresAt }

/-- Whether `revoke_by_id` looks for an entry. -/
def isOf (u : UserId) (id : Uuid) (x : SessionToken × StoredSession) : Bool :=
  x.2.publicId = id ∧ x.2.session.userId = u ∧ ¬ x.2.session.isExpired now

end FakeSessionStore

/-! ## Edits of snapshots -/

namespace FakeSessionStore

variable {s : MembershipSnapshot} {l : List MembershipSnapshot}

/-- A snapshot of the same tenant with the role of another one is the other one. -/
lemma withRole_eq {b : MembershipSnapshot} (h : b.tenantId = s.tenantId) :
    { b with role := s.role } = s := by
  obtain ⟨t, r⟩ := b
  obtain rfl : t = s.tenantId := h
  rfl

/-- **Adding a snapshot** to a list without a tenant occurring twice is the edit of the database. -/
theorem addTo_eq (h : (l.map (·.tenantId)).Nodup) : addTo s l = Keyed.upsert (·.tenantId) s l := by
  induction l with
  | nil => rfl
  | cons b l ih =>
    rw [List.map_cons, List.nodup_cons] at h
    by_cases hb : b.tenantId = s.tenantId
    · have hrest : l.map (fun b => if b.tenantId = s.tenantId then s else b) = l := by
        refine (List.map_congr_left fun c hc => if_neg fun heq => h.1 ?_).trans (List.map_id' l)
        exact List.mem_map.mpr ⟨c, hc, heq.trans hb.symm⟩
      rw [addTo, if_pos hb, withRole_eq hb]
      simp [Keyed.upsert, hb, hrest]
    · rw [addTo, if_neg hb, ih h.2]
      simp [Keyed.upsert, hb]

/-- **Updating a tenant** in a list without a tenant occurring twice is the edit of the database. -/
theorem updateIn_eq (h : (l.map (·.tenantId)).Nodup) :
    updateIn s l = Keyed.modify (·.tenantId) s.tenantId (fun b => { b with role := s.role }) l := by
  induction l with
  | nil => rfl
  | cons b l ih =>
    rw [List.map_cons, List.nodup_cons] at h
    by_cases hb : b.tenantId = s.tenantId
    · have hrest : l.map (fun b => if b.tenantId = s.tenantId then { b with role := s.role } else b) =
          l := by
        refine (List.map_congr_left fun c hc => if_neg fun heq => h.1 ?_).trans (List.map_id' l)
        exact List.mem_map.mpr ⟨c, hc, heq.trans hb.symm⟩
      rw [updateIn, if_pos hb]
      simp [Keyed.modify, hb, hrest]
    · rw [updateIn, if_neg hb, ih h.2]
      simp [Keyed.modify, hb]

end FakeSessionStore

/-! ## Operations -/

/-- The operations of the port that the store in memory implements. -/
inductive PortCall where
  /-- `create_with_kind`, with an end in whole microseconds. -/
  | createWithKind (u : UserId) (expiresAt : Time) (kind : SessionKind) (pairId : Option Uuid)
  /-- `find_valid`. -/
  | findValid (token : SessionToken)
  /-- `revoke`. -/
  | revoke (token : SessionToken)
  /-- `revoke_by_id`. -/
  | revokeById (u : UserId) (id : Uuid)
  /-- `revoke_pair`. -/
  | revokePair (pairId : Uuid) (exceptToken : SessionToken)
  /-- `list_active_by_user`. -/
  | listActiveByUser (u : UserId)
  /-- `add_membership`. -/
  | addMembership (u : UserId) (snapshot : MembershipSnapshot)
  /-- `update_membership_for_user`. -/
  | updateMembershipForUser (u : UserId) (snapshot : MembershipSnapshot)
  /-- `remove_membership`. -/
  | removeMembership (u : UserId) (t : TenantId)

/-- What an operation returns. -/
inductive PortReply where
  /-- A new token. -/
  | token (r : Except SessionError SessionToken)
  /-- A session, if there is one. -/
  | session (r : Except SessionError (Option Session))
  /-- Nothing. -/
  | unit (r : Except SessionError Unit)
  /-- Sessions. -/
  | summaries (r : Except SessionError (List SessionSummary))

/-- The time, the UUIDs that were drawn, and the store in memory. -/
structure FakeWorld where
  /-- The time. -/
  now : Time
  /-- The UUIDs that were drawn, latest first. -/
  minted : List Uuid
  /-- The store. -/
  store : FakeSessionStore

namespace PortCall

/-- An operation of the store in memory. -/
def fakeReplies : PortCall → FakeWorld → PortReply → FakeWorld → Prop
  | createWithKind u expiresAt kind pairId, v, a, v' => ∃ (token : SessionToken) (id : Uuid),
      a = .token (.ok token) ∧ v' = { v with
        minted := id :: token.inner :: v.minted
        store := v.store.insert token
          ⟨{ userId := u, expiresAt, kind, pairId, tenantMemberships := [] }, id⟩ }
  | findValid token, v, a, v' => a = .session (.ok (v.store.findValid v.now token)) ∧ v' = v
  | revoke token, v, a, v' =>
      a = .unit (.ok ()) ∧ v' = { v with store := v.store.retain (·.1 ≠ token) }
  | revokeById u id, v, a, v' =>
      (∃ x ∈ v.store.sessions, FakeSessionStore.isOf v.now u id x = true ∧ a = .unit (.ok ()) ∧
        v' = { v with store := v.store.retain (·.1 ≠ x.1) }) ∨
      ((∀ x ∈ v.store.sessions, ¬ FakeSessionStore.isOf v.now u id x = true) ∧
        a = .unit (.error .forbidden) ∧ v' = v)
  | revokePair pairId exceptToken, v, a, v' => a = .unit (.ok ()) ∧ v' = { v with
      store := v.store.retain fun x => ¬ (x.2.session.pairId = some pairId ∧ x.1 ≠ exceptToken) }
  | listActiveByUser u, v, a, v' => v' = v ∧ ∃ l : List (SessionToken × StoredSession),
      l.Perm (v.store.sessions.filter fun x =>
        x.2.session.userId = u ∧ ¬ x.2.session.isExpired v.now) ∧
      a = .summaries (.ok (l.map (FakeSessionStore.summary v.now)))
  | addMembership u snapshot, v, a, v' => a = .unit (.ok ()) ∧
      v' = { v with store := v.store.mutateMemberships u (FakeSessionStore.addTo snapshot) }
  | updateMembershipForUser u snapshot, v, a, v' => a = .unit (.ok ()) ∧
      v' = { v with store := v.store.mutateMemberships u (FakeSessionStore.updateIn snapshot) }
  | removeMembership u t, v, a, v' => a = .unit (.ok ()) ∧
      v' = { v with store := v.store.mutateMemberships u (List.filter (·.tenantId ≠ t.inner)) }

/-- An operation of the store over the database, if no statement fails. -/
def pgReplies : PortCall → World → PortReply → World → Prop
  | createWithKind u expiresAt kind pairId, w, a, w' => ∃ r, a = .token r ∧
      (PgSessionStore.createWithKind u expiresAt kind pairId).Exec (Env noFault) w r w'
  | findValid token, w, a, w' => ∃ r, a = .session r ∧
      (PgSessionStore.findValid token).Exec (Env noFault) w r w'
  | revoke token, w, a, w' => ∃ r, a = .unit r ∧
      (PgSessionStore.revoke token).Exec (Env noFault) w r w'
  | revokeById u id, w, a, w' => ∃ r, a = .unit r ∧
      (PgSessionStore.revokeById u id).Exec (Env noFault) w r w'
  | revokePair pairId exceptToken, w, a, w' => ∃ r, a = .unit r ∧
      (PgSessionStore.revokePair pairId exceptToken).Exec (Env noFault) w r w'
  | listActiveByUser u, w, a, w' => ∃ r, a = .summaries r ∧
      (PgSessionStore.listActiveByUser u).Exec (Env noFault) w r w'
  | addMembership u snapshot, w, a, w' => ∃ r, a = .unit r ∧
      (PgSessionStore.addMembership u snapshot).Exec (Env noFault) w r w'
  | updateMembershipForUser u snapshot, w, a, w' => ∃ r, a = .unit r ∧
      (PgSessionStore.updateMembershipForUser u snapshot).Exec (Env noFault) w r w'
  | removeMembership u t, w, a, w' => ∃ r, a = .unit r ∧
      (PgSessionStore.removeMembership u t).Exec (Env noFault) w r w'

end PortCall

end Klynt
