import Klynt.Persistence.SnapshotEdit

set_option relaxedAutoImplicit false
set_option autoImplicit false

/-!
# Snapshots that mirror memberships

A list of snapshots mirrors the memberships of a user if it has one entry for each row of the
user and no other, in any order.  A change of the membership table and the edit of the snapshots
for the event that reports it keep the two together.

## Main definitions

* `Mirrors` — a list of snapshots mirrors the memberships of a user.
* `MembershipChange` — the change of the membership table an event reports.

## Main results

* `MembershipChange.mirrors` — the edit follows the change.
* `MembershipChange.mirrors_of_ne` — other users are not concerned.
-/

namespace Klynt

/-- The tenant and the role of a snapshot. -/
def MembershipSnapshot.entry (s : MembershipSnapshot) : Uuid × String := (s.tenantId, s.role.asStr)

/-- The tenant and the role of a membership. -/
def MembershipRow.entry (m : MembershipRow) : Uuid × String := (m.tenantId.inner, m.role)

/-- The memberships of a user. -/
def Db.membershipsOf (db : Db) (u : UserId) : List MembershipRow :=
  db.memberships.filter (·.userId = u)

/-- The snapshots have one entry for each membership of a user and no other, in any order. -/
def Mirrors (db : Db) (u : UserId) (l : List MembershipSnapshot) : Prop :=
  (l.map (·.entry)).Perm ((db.membershipsOf u).map (·.entry))

/-- The change of the membership table an event reports. -/
inductive MembershipChange (db db' : Db) : MembershipEvent → Prop
  /-- A membership under a new key. -/
  | added {m : MembershipRow} {role : TenantRole} (hrole : m.role = role.asStr)
      (hnew : ∀ x ∈ db.memberships, ¬ x.hasKey m.tenantId m.userId)
      (hdb : db'.memberships = db.memberships ++ [m]) :
      MembershipChange db db' (.added m.tenantId m.userId role)
  /-- Another role. -/
  | updated {t : TenantId} {u : UserId} {role : TenantRole} {id : RoleId}
      (hdb : db'.memberships = db.memberships.map fun m =>
        if m.hasKey t u then { m with role := role.asStr, tenantRoleId := some id } else m) :
      MembershipChange db db' (.updated t u role)
  /-- No membership any more. -/
  | removed {t : TenantId} {u : UserId}
      (hdb : db'.memberships = db.memberships.filter fun m => ¬ m.hasKey t u) :
      MembershipChange db db' (.removed t u)

/-! ## Events on entries -/

namespace MembershipEvent

/-- What an event does to the entries of its user. -/
def editEntries : MembershipEvent → List (Uuid × String) → List (Uuid × String)
  | added t _ role, l => l ++ [(t.inner, role.asStr)]
  | updated t _ role, l => l.map fun x => if x.1 = t.inner then (t.inner, role.asStr) else x
  | removed t _, l => l.filter fun x => x.1 ≠ t.inner

/-- The order of the entries does not matter. -/
theorem editEntries_perm (e : MembershipEvent) {l l' : List (Uuid × String)} (h : l.Perm l') :
    (e.editEntries l).Perm (e.editEntries l') := by
  cases e with
  | added t u role => exact h.append_right _
  | updated t u role => exact h.map _
  | removed t u => exact h.filter _

/-- The edit of snapshots on their entries; an added tenant has to be new. -/
theorem map_entry_edit (e : MembershipEvent) {l : List MembershipSnapshot}
    (hnew : ∀ t u role, e = .added t u role → ∀ s ∈ l, s.tenantId ≠ t.inner) :
    (e.edit l).map (·.entry) = e.editEntries (l.map (·.entry)) := by
  cases e with
  | added t u role =>
    rw [edit, Keyed.upsert_of_forall_ne _ (hnew t u role rfl), List.map_append]
    rfl
  | updated t u role =>
    simp only [edit, Keyed.modify, editEntries, List.map_map]
    refine List.map_congr_left fun s _ => ?_
    by_cases hs : s.tenantId = t.inner
    · simp [MembershipSnapshot.entry, hs]
    · simp [MembershipSnapshot.entry, hs]
  | removed t u =>
    simp only [edit, Keyed.erase, editEntries, List.filter_map]
    rfl

end MembershipEvent

/-! ## Changes -/

section Change

variable {db db' : Db} {e : MembershipEvent} {u : UserId} {l : List MembershipSnapshot}

/-- A change of roles moves no membership to another user. -/
theorem filter_userId_map {f : MembershipRow → MembershipRow} (hf : ∀ m, (f m).userId = m.userId)
    (l : List MembershipRow) (u : UserId) :
    (l.map f).filter (·.userId = u) = (l.filter (·.userId = u)).map f := by
  rw [List.filter_map]
  congr 1
  refine List.filter_congr fun m _ => ?_
  simp [hf]

/-- The entries of the user of an event after the change. -/
theorem MembershipChange.map_entry (h : MembershipChange db db' e) :
    (db'.membershipsOf e.userId).map (·.entry) =
      e.editEntries ((db.membershipsOf e.userId).map (·.entry)) := by
  cases h with
  | @added m role hrole hnew hdb =>
    have hm : decide (m.userId = (MembershipEvent.added m.tenantId m.userId role).userId) = true :=
      decide_eq_true rfl
    simp only [Db.membershipsOf, hdb, List.filter_append, List.filter_cons, hm, if_true,
      List.filter_nil, List.map_append, List.map_singleton, MembershipRow.entry, hrole]
    rfl
  | @updated t u role id hdb =>
    have hrow : ∀ m : MembershipRow, m.userId = u →
        (if m.hasKey t u then { m with role := role.asStr, tenantRoleId := some id } else m).entry =
          if m.entry.1 = t.inner then (t.inner, role.asStr) else m.entry := by
      intro m hm
      by_cases ht : m.tenantId = t
      · rw [if_pos (MembershipRow.hasKey_iff.mpr ⟨ht, hm⟩)]
        simp [MembershipRow.entry, ht]
      · have hkey : ¬ m.hasKey t u = true := fun hk => ht (MembershipRow.hasKey_iff.mp hk).1
        have hid : ¬ m.entry.1 = t.inner := fun hi => ht (congrArg TenantId.mk hi)
        rw [if_neg hkey, if_neg hid]
    unfold Db.membershipsOf
    rw [hdb, filter_userId_map (fun m => by split <;> rfl)]
    simp only [MembershipEvent.userId, MembershipEvent.editEntries, List.map_map]
    refine List.map_congr_left fun m hm => ?_
    exact hrow m (of_decide_eq_true (List.mem_filter.mp hm).2)
  | @removed t u hdb =>
    simp only [Db.membershipsOf, hdb, MembershipEvent.userId, List.filter_filter,
      MembershipEvent.editEntries, List.filter_map, List.filter_filter]
    congr 1
    refine List.filter_congr fun m _ => ?_
    by_cases hm : m.userId = u
    · by_cases ht : m.tenantId = t
      · simp [hm, ht, MembershipRow.hasKey, MembershipRow.entry]
      · have hid : ¬ m.tenantId.inner = t.inner := fun hi => ht (congrArg TenantId.mk hi)
        simp [hm, ht, hid, MembershipRow.hasKey, MembershipRow.entry]
    · simp [hm]

/-- **The edit follows the change**: snapshots that mirror the memberships of the user before
mirror them afterwards, once edited. -/
theorem MembershipChange.mirrors (h : MembershipChange db db' e) (hl : Mirrors db e.userId l) :
    Mirrors db' e.userId (e.edit l) := by
  have hnew : ∀ t u role, e = .added t u role → ∀ s ∈ l, s.tenantId ≠ t.inner := by
    rintro t u role rfl s hs hid
    cases h with
    | @added m role hrole hnew hdb =>
      have hentry : s.entry ∈ (db.membershipsOf m.userId).map (·.entry) :=
        hl.subset (List.mem_map_of_mem hs)
      obtain ⟨x, hx, hxs⟩ := List.mem_map.mp hentry
      obtain ⟨hx, hu⟩ := List.mem_filter.mp hx
      have hxid : x.tenantId.inner = m.tenantId.inner := (congrArg Prod.fst hxs).trans hid
      exact hnew x hx (MembershipRow.hasKey_iff.mpr ⟨congrArg TenantId.mk hxid, by simpa using hu⟩)
  unfold Mirrors
  rw [e.map_entry_edit hnew, h.map_entry]
  exact e.editEntries_perm hl

/-- The memberships of other users stay. -/
theorem MembershipChange.membershipsOf_of_ne (h : MembershipChange db db' e) (hu : u ≠ e.userId) :
    (db'.membershipsOf u).map (·.entry) = (db.membershipsOf u).map (·.entry) := by
  cases h with
  | @added m role hrole hnew hdb =>
    have hm : decide (m.userId = u) = false := decide_eq_false (Ne.symm hu)
    simp [Db.membershipsOf, hdb, hm]
  | @updated t v role id hdb =>
    unfold Db.membershipsOf
    rw [hdb, filter_userId_map (fun m => by split <;> rfl), List.map_map]
    refine List.map_congr_left fun m hm => ?_
    have hmu : m.userId = u := by simpa using (List.mem_filter.mp hm).2
    have hkey : ¬ m.hasKey t v = true := fun hk =>
      hu (hmu.symm.trans (MembershipRow.hasKey_iff.mp hk).2)
    simp only [Function.comp_apply, if_neg hkey]
  | @removed t v hdb =>
    simp only [Db.membershipsOf, hdb, List.filter_filter]
    congr 1
    refine List.filter_congr fun m _ => ?_
    by_cases hm : m.userId = u
    · have hkey : m.hasKey t v = false := by
        refine Bool.eq_false_iff.mpr fun hk => hu ?_
        exact hm.symm.trans (MembershipRow.hasKey_iff.mp hk).2
      simp [hm, hkey]
    · simp [hm]

/-- **Other users are not concerned** by a change. -/
theorem MembershipChange.mirrors_of_ne (h : MembershipChange db db' e) (hu : u ≠ e.userId) :
    Mirrors db' u l ↔ Mirrors db u l := by
  unfold Mirrors
  rw [h.membershipsOf_of_ne hu]

/-- Only the memberships matter. -/
theorem Mirrors.congr (h : db'.memberships = db.memberships) : Mirrors db' u l ↔ Mirrors db u l := by
  unfold Mirrors Db.membershipsOf
  rw [h]

end Change

end Klynt
