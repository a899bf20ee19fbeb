import Klynt.System.TenantRace

set_option relaxedAutoImplicit false
set_option autoImplicit false

/-!
# How often an invite can be used

An acceptance reads the invite, inserts the membership and marks the invite, in three statements.
Another acceptance of the same invite may read it before it is marked; then only the primary key of
the memberships stands in its way.  The key is free again when the member has been removed.

## Main definitions

* `JoinedWith` — a call inserted the membership of a user with an invite.
* `entries`, `removals` — how often a membership was inserted and deleted.
* `Balanced` — the invariant between the two.
* `OneAccountPerAddress` — no two accounts of a run have the same address.

## Main results

* `balanced_of_run` — a membership is inserted at most once more than it is deleted.
* `marked_of_run` — an invite that was marked stays accepted.
* `invite_reuse` — the calls that join with one invite, in every interleaving.
-/

namespace Klynt

/-! ## Events -/

/-- A marking of an invite, with the number of rows that were marked. -/
def markedEvent (id : Uuid) (n : Nat) : Prog.Event Req Ans :=
  ⟨.update (.acceptInvite id), (.ok n : Except SqlxError Nat)⟩

/-- The key of a membership that was inserted. -/
def insertedKey : Prog.Event Req Ans → Option (TenantId × UserId)
  | ⟨.update (.insertMembership row), .ok _⟩ => some (row.tenantId, row.userId)
  | _ => none

/-- A membership that was inserted. -/
lemma insertedKey_eq_some {e : Prog.Event Req Ans} {t : TenantId} {u : UserId}
    (h : insertedKey e = some (t, u)) :
    ∃ row m, e = insertedEvent row m ∧ row.tenantId = t ∧ row.userId = u := by
  unfold insertedKey at h
  split at h
  · rename_i row m
    obtain ⟨rfl, rfl⟩ := Prod.mk.inj (Option.some.inj h)
    exact ⟨row, m, rfl, rfl, rfl⟩
  · cases h

/-- The key of a membership that was deleted. -/
def removedKey : Prog.Event Req Ans → Option (TenantId × UserId)
  | ⟨.update (.deleteMembership t u), .ok (_ + 1)⟩ => some (t, u)
  | _ => none

section Counts

variable {ι : Type} {log : List (ι × Prog.Event Req Ans)} {e : ι × Prog.Event Req Ans}
  {t : TenantId} {u : UserId}

/-- How often the membership of a user was inserted. -/
def entries (t : TenantId) (u : UserId) (log : List (ι × Prog.Event Req Ans)) : Nat :=
  log.countP fun x => insertedKey x.2 = some (t, u)

/-- How often the membership of a user was deleted. -/
def removals (t : TenantId) (u : UserId) (log : List (ι × Prog.Event Req Ans)) : Nat :=
  log.countP fun x => removedKey x.2 = some (t, u)

/-- One more insertion. -/
lemma entries_cons (h : insertedKey e.2 = some (t, u)) :
    entries t u (e :: log) = entries t u log + 1 :=
  List.countP_cons_of_pos (decide_eq_true h)

/-- Another request. -/
lemma entries_cons_of_ne (h : insertedKey e.2 ≠ some (t, u)) :
    entries t u (e :: log) = entries t u log :=
  List.countP_cons_of_neg fun hd => h (of_decide_eq_true hd)

/-- One more deletion. -/
lemma removals_cons (h : removedKey e.2 = some (t, u)) :
    removals t u (e :: log) = removals t u log + 1 :=
  List.countP_cons_of_pos (decide_eq_true h)

/-- No deletion is undone. -/
lemma removals_le_cons : removals t u log ≤ removals t u (e :: log) :=
  (List.sublist_cons_self e log).countP_le

end Counts

/-! ## Memberships -/

/-- A user is a member of a tenant. -/
def Db.IsMember (db : Db) (t : TenantId) (u : UserId) : Prop :=
  ∃ m ∈ db.memberships, m.hasKey t u = true

/-- A tenant exists. -/
def Db.HasTenant (db : Db) (t : TenantId) : Prop := ∃ row ∈ db.tenants, row.id = t

/-- **The invariant of a membership**: it was inserted at most once more than it was deleted, and
not even that if it is missing in an existing tenant. -/
structure Balanced {ι : Type} (t : TenantId) (u : UserId) (log : List (ι × Prog.Event Req Ans))
    (db : Db) : Prop where
  /-- The balance. -/
  le : entries t u log ≤ removals t u log + 1
  /-- The balance without the membership. -/
  absent : db.HasTenant t → ¬ db.IsMember t u → entries t u log ≤ removals t u log
  /-- Members have a tenant that was created. -/
  born : entries t u log ≠ 0 → ∃ owner, Born log (TenantBirth t owner)

section Balanced

variable {ι : Type} {log : List (ι × Prog.Event Req Ans)} {e : ι × Prog.Event Req Ans}
  {t : TenantId} {u : UserId} {db db' : Db}

/-- A request that does not insert the membership, and deletes it only with its tenant. -/
lemma Balanced.cons (h : Balanced t u log db) (he : insertedKey e.2 ≠ some (t, u))
    (hkept : db'.HasTenant t → ¬ db'.IsMember t u → entries t u log ≠ 0 →
      db.HasTenant t ∧ ¬ db.IsMember t u) : Balanced t u (e :: log) db' := by
  have hmore : removals t u log ≤ removals t u (e :: log) := removals_le_cons
  constructor
  · rw [entries_cons_of_ne he]
    exact h.le.trans (Nat.succ_le_succ hmore)
  · intro htenant hno
    rw [entries_cons_of_ne he]
    by_cases hzero : entries t u log = 0
    · omega
    · obtain ⟨htenant, hno⟩ := hkept htenant hno hzero
      exact (h.absent htenant hno).trans hmore
  · rw [entries_cons_of_ne he]
    rintro hsome
    obtain ⟨owner, hborn⟩ := h.born hsome
    exact ⟨owner, hborn.cons e⟩

/-- A request that leaves members and tenants alone. -/
lemma Balanced.same (h : Balanced t u log db) (he : insertedKey e.2 = none)
    (hmembers : db'.memberships = db.memberships) (htenants : db'.tenants = db.tenants) :
    Balanced t u (e :: log) db' := by
  refine h.cons (by rw [he]; exact Option.some_ne_none _ |>.symm) fun htenant hno _ => ?_
  unfold Db.HasTenant at htenant ⊢
  unfold Db.IsMember at hno ⊢
  rw [htenants] at htenant
  rw [hmembers] at hno
  exact ⟨htenant, hno⟩

/-- A deletion of the membership. -/
lemma Balanced.remove (h : Balanced t u log db) (he : insertedKey e.2 ≠ some (t, u))
    (hremoved : removedKey e.2 = some (t, u)) : Balanced t u (e :: log) db' := by
  have hle := h.le
  constructor
  · rw [entries_cons_of_ne he, removals_cons hremoved]
    omega
  · intro _ _
    rw [entries_cons_of_ne he, removals_cons hremoved]
    exact hle
  · rw [entries_cons_of_ne he]
    intro hsome
    obtain ⟨owner, hborn⟩ := h.born hsome
    exact ⟨owner, hborn.cons e⟩

/-- An insertion of a membership. -/
lemma Balanced.insert {row m : MembershipRow} {now : Time} {i : ι}
    (h : Balanced t u log db) (hx : insertMembership row now db = .ok (m, db'))
    (hborn : ∀ r ∈ db.tenants, Born log (TenantBirth r.id r.ownerId)) :
    Balanced t u ((i, insertedEvent row m) :: log) db' := by
  obtain ⟨hkey, ⟨r, hr, hrid⟩, -, -, -, rfl⟩ := insertMembership_ok hx
  by_cases hrow : row.tenantId = t ∧ row.userId = u
  · obtain ⟨rfl, rfl⟩ := hrow
    have hcount : entries row.tenantId row.userId ((i, insertedEvent row m) :: log) =
        entries row.tenantId row.userId log + 1 := entries_cons rfl
    have habsent := h.absent ⟨r, hr, hrid⟩ fun ⟨m', hm', hhas⟩ => hkey m' hm' hhas
    have hmore : removals row.tenantId row.userId log ≤
        removals row.tenantId row.userId ((i, insertedEvent row m) :: log) := removals_le_cons
    refine ⟨by omega, fun _ hno => (hno ⟨row, ?_, ?_⟩).elim, fun _ => ?_⟩
    · exact List.mem_append_right _ List.mem_cons_self
    · exact MembershipRow.hasKey_iff.mpr ⟨rfl, rfl⟩
    · rw [← hrid]
      exact ⟨_, (hborn r hr).cons _⟩
  · refine h.cons (fun heq => hrow ?_) fun htenant hno _ => ⟨htenant, ?_⟩
    · exact Prod.mk.inj (Option.some.inj heq)
    · rintro ⟨m', hm', hhas⟩
      exact hno ⟨m', List.mem_append_left _ hm', hhas⟩

end Balanced

/-! ## One request -/

section Request

variable [Unicode] {ι : Type} [DecidableEq ι] {calls : ι → ExecutionContext × TenantCall}
  {log : List (ι × Prog.Event Req Ans)} {i : ι} {now : Time} {db db' : Db} {t : TenantId}
  {u : UserId}

/-- **What was created is not created again.** -/
lemma Knows.not_reborn (h : Knows calls log i db) {B : Req → Prop} {v : Uuid} (hborn : Born log B)
    (hB : ∀ q, B q → Mints q v) {q : Req}
    (hm : TenantMay (calls i).1 (Pool.mine i log) (calls i).2 q) : ¬ Mints q v := by
  intro hmint
  obtain ⟨⟨j, q', a⟩, he, hb⟩ := hborn
  obtain ⟨newer, older, hlog, hmay⟩ := h.justified.of_mem he
  have hdrew : (j, uuidEvent v) ∈ log := by
    rw [hlog]
    exact List.mem_append_right _
      (List.mem_cons_of_mem _ (Pool.mem_mine.mp (hmay.drew (hB _ hb))))
  -- the call that drew the UUID has already written
  obtain rfl := drawer_unique h.nodup (Pool.mem_mine.mp (hm.drew hmint)) hdrew
  exact hm.first hmint.creates ⟨q', a⟩ (Pool.mem_mine.mpr he) (hB _ hb).creates.writesDb

omit [Unicode] in
/-- A member in a filtered table. -/
lemma isMember_of_filter {p : MembershipRow → Bool}
    (hp : ∀ m ∈ db.memberships, m.hasKey t u = true → p m = true) (h : db.IsMember t u) :
    ∃ m ∈ db.memberships.filter p, m.hasKey t u = true := by
  obtain ⟨m, hm, hkey⟩ := h
  exact ⟨m, List.mem_filter.mpr ⟨hm, hp m hm hkey⟩, hkey⟩

/-- **A statement of a call keeps the balance.** -/
lemma Knows.balanced_update (h : Knows calls log i db) (hb : Balanced t u log db) {x : Update}
    {r : x.Res} (hm : TenantMay (calls i).1 (Pool.mine i log) (calls i).2 (.update x))
    (hx : x.exec now db = .ok (r, db')) :
    Balanced t u ((i, ⟨.update x, (.ok r : Except SqlxError x.Res)⟩) :: log) db' := by
  have hborn := h.settled.born.tenant
  have hinsert : ∀ {row m : MembershipRow}, insertMembership row now db = .ok (m, db') →
      Balanced t u ((i, insertedEvent row m) :: log) db' := fun hx => hb.insert hx hborn
  generalize (calls i).2 = call at hm
  cases hm with
  | aside hs =>
    obtain ⟨_, rfl⟩ := Update.OnSessions.frame hs hx
    refine hb.same ?_ rfl rfl
    cases x with
    | insertMembership row => exact hs.elim
    | _ => rfl
  | renamed hcheck hfirst hmap =>
    obtain ⟨-, rfl⟩ | ⟨-, _, -, -, rfl⟩ := @updateTenant_ok now _ _ _ _ hx
    · exact hb.same rfl rfl rfl
    · refine hb.cons (Option.some_ne_none _).symm fun htenant hno _ => ⟨?_, hno⟩
      obtain ⟨row', hrow', hid⟩ := htenant
      obtain ⟨row, hrow, rfl⟩ := List.mem_map.mp hrow'
      refine ⟨row, hrow, ?_⟩
      split at hid
      · rename_i heq
        exact heq.trans hid
      · exact hid
  | @deleted slug actor row hcheck hfirst =>
    obtain ⟨-, rfl, -⟩ | ⟨-, rfl⟩ := @deleteTenant_ok now _ _ _ _ hx
    · exact hb.same rfl rfl rfl
    · refine hb.cons (Option.some_ne_none _).symm fun htenant hno _ => ?_
      obtain ⟨row', hrow', rfl⟩ := htenant
      obtain ⟨hrow', hne⟩ := List.mem_filter.mp hrow'
      refine ⟨⟨row', hrow', rfl⟩, fun hmember => hno (isMember_of_filter (fun m _ hkey => ?_) hmember)⟩
      exact decide_eq_true ((MembershipRow.hasKey_iff.mp hkey).1.trans_ne (of_decide_eq_true hne))
  | memberAdded hcheck hfirst hu hrole => exact hinsert hx
  | inviteUsed hinv hfirst => exact hinsert hx
  | @memberUpdated slug email role actor v row id hcheck hfirst hv hrole =>
    obtain ⟨-, -, rfl⟩ := @updateMembershipRole_ok now _ _ _ _ _ _ _ hx
    refine hb.cons (Option.some_ne_none _).symm fun htenant hno _ => ⟨htenant, fun hmember => hno ?_⟩
    obtain ⟨m, hmem, hkey⟩ := hmember
    refine ⟨_, List.mem_map_of_mem hmem, ?_⟩
    split
    · exact hkey
    · exact hkey
  | @memberRemoved slug email actor v row hcheck hfirst hv =>
    obtain ⟨hcount, rfl⟩ := @deleteMembership_ok now _ _ _ _ _ hx
    by_cases hkey : row.id = t ∧ v = u
    · obtain ⟨rfl, rfl⟩ := hkey
      cases r with
      | zero =>
        refine hb.cons (Option.some_ne_none _).symm fun htenant _ _ => ⟨htenant, ?_⟩
        rintro ⟨m, hmem, hkey⟩
        exact List.countP_eq_zero.mp hcount.symm m hmem hkey
      | succ n =>
        -- this deletion is counted
        exact hb.remove (Option.some_ne_none _).symm rfl
    · refine hb.cons (Option.some_ne_none _).symm fun htenant hno _ => ⟨htenant, fun hmember => ?_⟩
      refine hno (isMember_of_filter (fun m _ hhas => decide_eq_true fun hhas' => hkey ?_) hmember)
      obtain ⟨hmt, hmu⟩ := MembershipRow.hasKey_iff.mp hhas
      obtain ⟨hmt', hmu'⟩ := MembershipRow.hasKey_iff.mp hhas'
      exact ⟨hmt'.symm.trans hmt, hmu'.symm.trans hmu⟩
  | inviteCreated hcheck hfirst hrole hid htenant hroleId hby hpending =>
    obtain ⟨_, -, -, -, -, -, rfl⟩ := @insertInvite_ok now _ _ _ hx
    exact hb.same rfl rfl rfl
  | inviteMarked hinv hjoined =>
    obtain ⟨-, rfl⟩ := @markInviteAccepted_ok now _ _ _ _ hx
    exact hb.same rfl rfl rfl
  | roleDeleted hcheck hfirst =>
    obtain ⟨-, rfl⟩ | ⟨-, -, -, -, rfl⟩ := @deleteRole_ok now _ _ _ _ _ hx
    · exact hb.same rfl rfl rfl
    · exact hb.same rfl rfl rfl

/-- **A transaction of a call keeps the balance.** -/
lemma Knows.balanced_transaction (h : Knows calls log i db) (hb : Balanced t u log db)
    {x : Transaction} {r : x.Res} {a : Ans (.transaction x)}
    (hm : TenantMay (calls i).1 (Pool.mine i log) (calls i).2 (.transaction x))
    (hx : x.exec now db = .ok (r, db')) : Balanced t u ((i, ⟨.transaction x, a⟩) :: log) db' := by
  have hroles := h.settled.wellFormed.roles
  have hold : ∀ {owner : UserId}, Born log (TenantBirth t owner) → ¬ Mints (.transaction x) t.inner :=
    fun hborn => h.not_reborn hborn (fun q ⟨_, _, hq, ht, _⟩ => hq ▸ ht ▸ .tenant) hm
  generalize (calls i).2 = call at hm hold
  cases hm with
  | aside hs => exact hs.elim
  | @created slug name tenant ids actor hctx hslug hnew hfirst hids =>
    obtain ⟨_, rfl, -, -, -, -, -, -, _, -, -, rfl⟩ :=
      @createTenantTx_ok now _ _ _ _ _ hroles.roleTenant hroles.roleIds hx
    refine hb.cons (Option.some_ne_none _).symm fun htenant hno hsome => ?_
    obtain ⟨row, hrow, rfl⟩ := htenant
    rcases List.mem_append.mp hrow with hrow | hrow
    · refine ⟨⟨row, hrow, rfl⟩, ?_⟩
      rintro ⟨m, hmem, hkey⟩
      exact hno ⟨m, List.mem_append_left _ hmem, hkey⟩
    · obtain rfl := List.mem_singleton.mp hrow
      obtain ⟨owner, hborn⟩ := hb.born hsome
      exact (hold hborn .tenant).elim
  | roleCreated hcheck hfirst hid htenant =>
    obtain ⟨_, -, -, -, rfl⟩ := @createRoleTx_ok now _ _ _ hx
    exact hb.same rfl rfl rfl
  | roleUpdated hcheck hfirst =>
    obtain ⟨-, rfl⟩ := @updateRolePermissionsTx_ok now _ _ _ _ _ hx
    exact hb.same rfl rfl rfl

/-- A request creates the invite `id` for an address. -/
def InviteAddressed (id : Uuid) (email : String) (q : Req) : Prop :=
  ∃ inv, q = .update (.insertInvite inv) ∧ inv.id = id ∧ varchar 255 inv.email = .ok email

/-- Invites stay what they are: none appears, no address changes, and no acceptance is undone. -/
def InvitesKept (db db' : Db) : Prop :=
  ∀ inv' ∈ db'.invites, ∃ inv ∈ db.invites, inv.id = inv'.id ∧ inv.email = inv'.email ∧
    (inv.acceptedAt ≠ none → inv'.acceptedAt ≠ none)

omit [Unicode] in
/-- The same invites. -/
lemma invitesKept_of_eq (h : db'.invites = db.invites) : InvitesKept db db' := by
  intro inv hinv
  rw [h] at hinv
  exact ⟨inv, hinv, rfl, rfl, id⟩

/-- **A statement of a call keeps the invites**, or adds one. -/
lemma TenantMay.invites {ctx : ExecutionContext} {call : TenantCall} {h : List (Prog.Event Req Ans)}
    {x : Update} {r : x.Res} (hm : TenantMay ctx h call (.update x))
    (hx : x.exec now db = .ok (r, db')) :
    InvitesKept db db' ∨ ∃ inv email, x = .insertInvite inv ∧ varchar 255 inv.email = .ok email ∧
      db'.invites = db.invites ++ [{ inv with email }] := by
  cases hm with
  | aside hs =>
    obtain ⟨_, rfl⟩ := Update.OnSessions.frame hs hx
    exact .inl (invitesKept_of_eq rfl)
  | renamed hcheck hfirst hmap =>
    obtain ⟨-, rfl⟩ | ⟨-, _, -, -, rfl⟩ := @updateTenant_ok now _ _ _ _ hx
    · exact .inl (invitesKept_of_eq rfl)
    · exact .inl (invitesKept_of_eq rfl)
  | deleted hcheck hfirst =>
    obtain ⟨-, rfl, -⟩ | ⟨-, rfl⟩ := @deleteTenant_ok now _ _ _ _ hx
    · exact .inl (invitesKept_of_eq rfl)
    · exact .inl fun inv hinv => ⟨inv, (List.mem_filter.mp hinv).1, rfl, rfl, id⟩
  | memberAdded hcheck hfirst hu hrole =>
    obtain ⟨-, -, -, -, -, rfl⟩ := @insertMembership_ok now _ _ _ _ hx
    exact .inl (invitesKept_of_eq rfl)
  | inviteUsed hinv hfirst =>
    obtain ⟨-, -, -, -, -, rfl⟩ := @insertMembership_ok now _ _ _ _ hx
    exact .inl (invitesKept_of_eq rfl)
  | memberUpdated hcheck hfirst hu hrole =>
    obtain ⟨-, -, rfl⟩ := @updateMembershipRole_ok now _ _ _ _ _ _ _ hx
    exact .inl (invitesKept_of_eq rfl)
  | memberRemoved hcheck hfirst hu =>
    obtain ⟨-, rfl⟩ := @deleteMembership_ok now _ _ _ _ _ hx
    exact .inl (invitesKept_of_eq rfl)
  | inviteCreated hcheck hfirst hrole hid htenant hroleId hby hpending =>
    obtain ⟨email, hemail, -, -, -, -, rfl⟩ := @insertInvite_ok now _ _ _ hx
    exact .inr ⟨_, email, rfl, hemail, rfl⟩
  | inviteMarked hinv hjoined =>
    obtain ⟨-, rfl⟩ := @markInviteAccepted_ok now _ _ _ _ hx
    refine .inl fun inv' hinv' => ?_
    obtain ⟨inv, hinv, rfl⟩ := List.mem_map.mp hinv'
    refine ⟨inv, hinv, ?_⟩
    split
    · exact ⟨rfl, rfl, fun _ => Option.some_ne_none _⟩
    · exact ⟨rfl, rfl, id⟩
  | roleDeleted hcheck hfirst =>
    obtain ⟨-, rfl⟩ | ⟨-, -, -, -, rfl⟩ := @deleteRole_ok now _ _ _ _ _ hx
    · exact .inl (invitesKept_of_eq rfl)
    · exact .inl (invitesKept_of_eq rfl)

/-- **A transaction of a call keeps the invites.** -/
lemma Knows.invites_transaction (h : Knows calls log i db) {x : Transaction} {r : x.Res}
    (hm : TenantMay (calls i).1 (Pool.mine i log) (calls i).2 (.transaction x))
    (hx : x.exec now db = .ok (r, db')) : db'.invites = db.invites := by
  have hroles := h.settled.wellFormed.roles
  generalize (calls i).2 = call at hm
  cases hm with
  | aside hs => exact hs.elim
  | created hctx hslug hnew hfirst hids =>
    obtain ⟨_, rfl, -, -, -, -, -, -, _, -, -, rfl⟩ :=
      @createTenantTx_ok now _ _ _ _ _ hroles.roleTenant hroles.roleIds hx
    rfl
  | roleCreated hcheck hfirst hid htenant =>
    obtain ⟨_, -, -, -, rfl⟩ := @createRoleTx_ok now _ _ _ hx
    rfl
  | roleUpdated hcheck hfirst =>
    obtain ⟨-, rfl⟩ := @updateRolePermissionsTx_ok now _ _ _ _ _ hx
    rfl

end Request

/-! ## Runs -/

/-- A request that has no effect on the database: it does not write, or it failed. -/
def Idle (e : Prog.Event Req Ans) : Prop :=
  ¬ e.1.WritesDb ∨ (∃ x err, e = ⟨.update x, (.error err : Except SqlxError x.Res)⟩) ∨
    ∃ x err, e = ⟨.transaction x, (.error err : Except DomainError x.Res)⟩

/-- Nothing was inserted. -/
lemma Idle.insertedKey {e : Prog.Event Req Ans} (h : Idle e) : Klynt.insertedKey e = none := by
  obtain ⟨q, a⟩ := e
  rcases h with h | ⟨x, err, heq⟩ | ⟨x, err, heq⟩
  · cases q with
    | update x => exact absurd trivial h
    | _ => rfl
  · rw [heq]
    cases x with
    | _ => rfl
  · rw [heq]
    rfl

section Runs

variable [Unicode] {ι : Type} [DecidableEq ι] {enabled : Bool} {backend : SessionBackend}
  {F : Req → Prop} {calls : ι → ExecutionContext × TenantCall} {tr : TenantHistory ι}
  {P : TenantPool ι} {i : ι}

/-- **The invariant rule of concurrent calls**: what holds without tenants, and is kept by what
happens beside the calls and by each of their requests, holds in every state. -/
theorem tenantPool_invariant {K : List (ι × Prog.Event Req Ans) → Db → Prop}
    (hr : Run (TenantPoolInit enabled backend calls) (Pool.Step (Env F) World.Beside) tr P)
    (hn : P.world.minted.Nodup) (hstart : ∀ db, db.NoTenants → K [] db)
    (hbeside : ∀ log db db', K log db → db.SameTenancy db' → K log db')
    (hidle : ∀ log db i e, K log db → Idle e → K ((i, e) :: log) db)
    (hupdate : ∀ log db i x r now db', Knows calls log i db → K log db →
      TenantMay (calls i).1 (Pool.mine i log) (calls i).2 (.update x) →
      x.exec now db = .ok (r, db') →
      K ((i, ⟨.update x, (.ok r : Except SqlxError x.Res)⟩) :: log) db')
    (htransaction : ∀ log db i x r now db', Knows calls log i db → K log db →
      TenantMay (calls i).1 (Pool.mine i log) (calls i).2 (.transaction x) →
      x.exec now db = .ok (r, db') →
      K ((i, ⟨.transaction x, (.ok r : Except DomainError x.Res)⟩) :: log) db') :
    K (Pool.log tr) P.world.db := by
  induction hr with
  | start hi => exact hstart _ hi.2
  | @snoc older Q P' l hrun hstep ih =>
    have hlong := hrun.snoc hstep
    cases hstep with
    | tick hT => exact hbeside _ _ _ (ih (hT.minted.sublist.nodup hn)) hT.db
    | @run i q k a w hi hE =>
      have hnQ : Q.world.minted.Nodup := hE.minted.sublist.nodup hn
      have hk := knows_of_run hrun hnQ i
      have hmay := (tenantJustified_of_run hlong).1
      have hold := ih hnQ
      cases q with
      | update x =>
        rcases hE with ⟨r, db, hx, rfl, rfl⟩ | ⟨err, -, rfl, rfl⟩ | ⟨-, ⟨m, rfl⟩, rfl⟩
        · exact hupdate _ _ _ _ _ _ _ hk hold hmay hx
        · exact hidle _ _ _ _ hold (.inr (.inl ⟨_, _, rfl⟩))
        · exact hidle _ _ _ _ hold (.inr (.inl ⟨_, _, rfl⟩))
      | transaction x =>
        rcases hE with ⟨r, db, hx, rfl, rfl⟩ | ⟨err, -, rfl, rfl⟩ | ⟨-, ⟨m, rfl⟩, rfl⟩
        · exact htransaction _ _ _ _ _ _ _ hk hold hmay hx
        · exact hidle _ _ _ _ hold (.inr (.inr ⟨_, _, rfl⟩))
        · exact hidle _ _ _ _ hold (.inr (.inr ⟨_, _, rfl⟩))
      | _ =>
        rw [hE.db_eq id]
        exact hidle _ _ _ _ hold (.inl id)

/-- **A membership is inserted at most once more than it is deleted**, in every interleaving. -/
lemma balanced_of_run
    (hr : Run (TenantPoolInit enabled backend calls) (Pool.Step (Env F) World.Beside) tr P)
    (hn : P.world.minted.Nodup) (t : TenantId) (u : UserId) :
    Balanced t u (Pool.log tr) P.world.db := by
  refine tenantPool_invariant hr hn (fun db _ => ⟨Nat.zero_le _, fun _ _ => Nat.zero_le _, ?_⟩)
    (fun log db db' h hs => ?_) (fun log db i e h he => h.same he.insertedKey rfl rfl)
    (fun log db i x r now db' hk h hm hx => hk.balanced_update h hm hx)
    fun log db i x r now db' hk h hm hx => hk.balanced_transaction h hm hx
  · exact fun hne => absurd rfl hne
  · obtain ⟨_, _, _, _, _, rfl⟩ := hs
    exact ⟨h.le, h.absent, h.born⟩

/-- **Every invite has the address it was created for.** -/
lemma addressed_of_run
    (hr : Run (TenantPoolInit enabled backend calls) (Pool.Step (Env F) World.Beside) tr P)
    (hn : P.world.minted.Nodup) :
    ∀ inv ∈ P.world.db.invites, Born (Pool.log tr) (InviteAddressed inv.id inv.email) := by
  refine tenantPool_invariant (K := fun log db => ∀ inv ∈ db.invites,
      Born log (InviteAddressed inv.id inv.email)) hr hn (fun db h => ?_) (fun log db db' h hs => ?_)
    (fun log db i e h _ inv hinv => (h inv hinv).cons _) (fun log db i x r now db' _ h hm hx => ?_)
    fun log db i x r now db' hk h hm hx => ?_
  · rw [h.invites]
    exact fun inv hinv => absurd hinv List.not_mem_nil
  · obtain ⟨_, _, _, _, _, rfl⟩ := hs
    exact h
  · rcases hm.invites hx with hkept | ⟨inv, email, rfl, hemail, heq⟩
    · intro inv' hinv'
      obtain ⟨inv, hinv, hid, haddress, -⟩ := hkept inv' hinv'
      rw [← hid, ← haddress]
      exact (h inv hinv).cons _
    · rw [heq]
      intro inv' hinv'
      rcases List.mem_append.mp hinv' with hinv' | hinv'
      · exact (h inv' hinv').cons _
      · obtain rfl := List.mem_singleton.mp hinv'
        exact ⟨_, List.mem_cons_self, inv, rfl, rfl, hemail⟩
  · rw [hk.invites_transaction hm hx]
    exact fun inv hinv => (h inv hinv).cons _

/-- **An invite that was marked stays accepted.** -/
lemma marked_of_run
    (hr : Run (TenantPoolInit enabled backend calls) (Pool.Step (Env F) World.Beside) tr P)
    (hn : P.world.minted.Nodup) {id : Uuid}
    (hmarked : ∃ k n, (k, markedEvent id (n + 1)) ∈ Pool.log tr) :
    ∀ inv ∈ P.world.db.invites, inv.id = id → inv.acceptedAt ≠ none := by
  suffices hall : (∃ k n, (k, markedEvent id (n + 1)) ∈ Pool.log tr) →
      (∃ t, Born (Pool.log tr) (InviteBirth id t)) ∧
        ∀ inv ∈ P.world.db.invites, inv.id = id → inv.acceptedAt ≠ none from (hall hmarked).2
  refine tenantPool_invariant (K := fun log db => (∃ k n, (k, markedEvent id (n + 1)) ∈ log) →
      (∃ t, Born log (InviteBirth id t)) ∧
        ∀ inv ∈ db.invites, inv.id = id → inv.acceptedAt ≠ none) hr hn ?_ (fun log db db' h hs => ?_)
    (fun log db i e h he hmarked => ?_) (fun log db i x r now db' hk h hm hx hmarked => ?_)
    fun log db i x r now db' hk h hm hx hmarked => ?_
  · rintro db - ⟨k, n, hmem⟩
    exact absurd hmem List.not_mem_nil
  · obtain ⟨_, _, _, _, _, rfl⟩ := hs
    exact h
  · obtain ⟨k, n, hmem⟩ := hmarked
    rcases List.mem_cons.mp hmem with heq | hmem
    · obtain ⟨-, rfl⟩ := Prod.mk.inj heq
      rcases he with he | ⟨x, err, heq⟩ | ⟨x, err, heq⟩
      · exact absurd trivial he
      · obtain ⟨hq, ha⟩ := Sigma.mk.inj heq
        obtain rfl := Req.update.inj hq
        cases eq_of_heq ha
      · cases (Sigma.mk.inj heq).1
    · obtain ⟨⟨t, hborn⟩, hall⟩ := h ⟨k, n, hmem⟩
      exact ⟨⟨t, hborn.cons _⟩, hall⟩
  · obtain ⟨k, n, hmem⟩ := hmarked
    rcases List.mem_cons.mp hmem with heq | hmem
    · obtain ⟨hq, ha⟩ := Sigma.mk.inj (Prod.mk.inj heq).2
      obtain rfl := Req.update.inj hq
      obtain rfl := Except.ok.inj (eq_of_heq ha)
      obtain ⟨hcount, rfl⟩ := @markInviteAccepted_ok now _ _ _ _ hx
      have hsome : 0 < db.invites.countP (·.id = id) := hcount ▸ Nat.succ_pos n
      obtain ⟨inv, hinv, hid⟩ := List.countP_pos_iff.mp hsome
      refine ⟨⟨inv.tenantId, ?_⟩, fun inv' hinv' hid' => ?_⟩
      · rw [← of_decide_eq_true hid]
        exact (hk.settled.born.invite inv hinv).cons _
      · obtain ⟨inv, hinv, rfl⟩ := List.mem_map.mp hinv'
        split at hid'
        · rename_i heq
          rw [if_pos heq]
          exact Option.some_ne_none _
        · rename_i hne
          exact absurd hid' hne
    · obtain ⟨⟨t, hborn⟩, hall⟩ := h ⟨k, n, hmem⟩
      refine ⟨⟨t, hborn.cons _⟩, fun inv' hinv' hid' => ?_⟩
      rcases hm.invites hx with hkept | ⟨inv, email, rfl, hemail, heq⟩
      · obtain ⟨inv, hinv, hid, -, haccepted⟩ := hkept inv' hinv'
        exact haccepted (hall inv hinv (hid.trans hid'))
      · rw [heq] at hinv'
        rcases List.mem_append.mp hinv' with hinv' | hinv'
        · exact hall inv' hinv' hid'
        · -- the id of an invite is not used again
          obtain rfl := List.mem_singleton.mp hinv'
          have hmint : Mints (.update (.insertInvite inv)) id := hid' ▸ .invite
          exact absurd hmint (hk.not_reborn hborn (fun q ⟨_, hq, hid, _⟩ => hq ▸ hid ▸ .invite) hm)
  · obtain ⟨k, n, hmem⟩ := hmarked
    rcases List.mem_cons.mp hmem with heq | hmem
    · cases (Sigma.mk.inj (Prod.mk.inj heq).2).1
    · obtain ⟨⟨t, hborn⟩, hall⟩ := h ⟨k, n, hmem⟩
      rw [hk.invites_transaction hm hx]
      exact ⟨⟨t, hborn.cons _⟩, hall⟩

/-! ## Joining with an invite -/

/-- Having seen `h`, a call inserts the membership of the user `u` in the tenant `t`, by the invite
`id` that it has read. -/
inductive Joins (ctx : ExecutionContext) (h : List (Prog.Event Req Ans)) :
    TenantCall → Uuid → TenantId → UserId → Prog.Event Req Ans → Prop
  /-- The member and the role of the invite. -/
  | mk {token roleName : String} {u : UserId} {inv : InviteRow} {role : TenantRole} {time : Time}
      {m : MembershipRow} (hinv : InviteRead ctx h token u inv roleName role) :
      Joins ctx h (.acceptInvite token) inv.id inv.tenantId u
        (insertedEvent (newMembershipRow inv.tenantId u role time inv.tenantRoleId) m)

/-- In a log, a call inserted the membership of a user in a tenant with an invite. -/
def JoinedWith (calls : ι → ExecutionContext × TenantCall) (log : List (ι × Prog.Event Req Ans))
    (i : ι) (id : Uuid) (t : TenantId) (u : UserId) : Prop :=
  ∃ newer older e, log = newer ++ (i, e) :: older ∧
    Joins (calls i).1 (Pool.mine i older) (calls i).2 id t u e

/-- No two accounts have the same address, at any moments of a history. -/
def OneAccountPerAddress (tr : TenantHistory ι) : Prop :=
  ∀ e ∈ tr, ∀ e' ∈ tr, ∀ row ∈ e.1.world.db.users, ∀ row' ∈ e'.1.world.db.users, ∀ address,
    Email.parse row.email = .ok address → Email.parse row'.email = .ok address → row.id = row'.id

omit [DecidableEq ι] in
/-- The address of a user that was read. -/
lemma parse_of_intoUser {row : UserRow} {user : User} (h : row.intoUser = .ok user) :
    Email.parse row.email = .ok user.email := by
  obtain ⟨_, _, _, email, -, -, -, -, hemail, rfl⟩ := UserRow.intoUser_eq h
  exact hemail

/-- **Every membership that an acceptance inserts is inserted with an invite.** -/
lemma joinedWith_of_inserted (hJ : TenantJustified calls (Pool.log tr)) {token : String}
    (hcall : (calls i).2 = .acceptInvite token) {row m : MembershipRow}
    (he : (i, insertedEvent row m) ∈ Pool.log tr) :
    ∃ id, JoinedWith calls (Pool.log tr) i id row.tenantId row.userId := by
  obtain ⟨newer, older, hlog, hmay⟩ := hJ.of_mem he
  suffices hjoins : ∃ id, Joins (calls i).1 (Pool.mine i older) (calls i).2 id row.tenantId
      row.userId (insertedEvent row m) by
    obtain ⟨id, hjoins⟩ := hjoins
    exact ⟨id, newer, older, _, hlog, hjoins⟩
  change TenantMay (calls i).1 (Pool.mine i older) (calls i).2 (.update (.insertMembership row))
    at hmay
  rw [hcall] at hmay ⊢
  cases hmay with
  | aside hs => exact hs.elim
  | inviteUsed hinv hfirst => exact ⟨_, .mk hinv⟩

/-- What a call that joined has read. -/
lemma JoinedWith.read {id : Uuid} {t : TenantId} {u : UserId}
    (h : JoinedWith calls (Pool.log tr) i id t u) :
    ∃ token inv roleName role m row, (calls i).2 = .acceptInvite token ∧
      InviteRead (calls i).1 (Pool.mine i (Pool.log tr)) token u inv roleName role ∧
      inv.id = id ∧ inv.tenantId = t ∧ (i, insertedEvent row m) ∈ Pool.log tr ∧
      row.tenantId = t ∧ row.userId = u := by
  obtain ⟨newer, older, e, hlog, hjoins⟩ := h
  generalize hcall : (calls i).2 = call at hjoins
  have hseen : Prog.Grown (fun _ => True) (Pool.mine i older) (Pool.mine i (Pool.log tr)) := by
    rw [hlog]
    refine ⟨Pool.mine i newer ++ [e], ?_, fun _ _ => trivial⟩
    simp [Pool.mine]
  cases hjoins with
  | @mk token roleName u inv role time m hinv =>
    refine ⟨token, inv, roleName, role, m, newMembershipRow inv.tenantId u role time inv.tenantRoleId,
      rfl, hinv.grown hseen, rfl, rfl, ?_, rfl, rfl⟩
    rw [hlog]
    exact List.mem_append_right _ List.mem_cons_self

/-- **An invite is for one member**: all calls that join with it insert the same membership.

**Proof sketch.** The id of an invite stands for one tenant and one address, and the actors have
that address. -/
lemma joinedWith_unique
    (hr : Run (TenantPoolInit enabled backend calls) (Pool.Step (Env F) World.Beside) tr P)
    (hn : P.world.minted.Nodup) (hone : OneAccountPerAddress tr) {j : ι} {id : Uuid}
    {t t' : TenantId} {u u' : UserId} (h : JoinedWith calls (Pool.log tr) i id t u)
    (h' : JoinedWith calls (Pool.log tr) j id t' u') : t = t' ∧ u = u' := by
  have hk := knows_of_run hr hn
  have haddress : ∀ {i : ι} {token : String} {u : UserId} {inv : InviteRow} {roleName : String}
      {role : TenantRole},
      InviteRead (calls i).1 (Pool.mine i (Pool.log tr)) token u inv roleName role →
      Born (Pool.log tr) (InviteAddressed inv.id inv.email) ∧
        ∃ e ∈ tr, ∃ row ∈ e.1.world.db.users, row.id = u ∧
          Email.parse row.email = .ok (Email.new inv.email) := by
    intro i token u inv roleName role hinv
    constructor
    · obtain ⟨newer, Q, older, m, rfl, hold, hE, hnew⟩ :=
        Pool.event_of_log hr (Pool.mem_mine.mp hinv.found)
      have hnQ : Q.world.minted.Nodup :=
        (hE.minted.trans (suffix_minted_of_run (fun _ h => h) hnew)).sublist.nodup hn
      have hfound := (Db.of_invite? (exec_of_queriedEvent hE).symm).1
      have hborn := addressed_of_run hold hnQ inv hfound
      rw [Pool.log_append, Pool.log_cons_some]
      exact (hborn.cons _).append _
    · obtain ⟨row, user, huser, hinto, hemail⟩ := hinv.addressed
      obtain ⟨newer, Q, older, m, rfl, -, hE, -⟩ := Pool.event_of_log hr (Pool.mem_mine.mp huser)
      have hfound := (exec_of_queriedEvent hE).symm
      refine ⟨_, List.mem_append_right _ List.mem_cons_self, row, List.mem_of_find?_eq_some hfound,
        by simpa using List.find?_some hfound, ?_⟩
      rw [← hemail]
      exact parse_of_intoUser hinto
  obtain ⟨token, inv, roleName, role, m, row, -, hread, rfl, rfl, -⟩ := h.read
  obtain ⟨token', inv', roleName', role', m', row', -, hread', hid, rfl, -⟩ := h'.read
  obtain ⟨hborn, e, he, r, hr, rfl, hparse⟩ := haddress hread
  obtain ⟨hborn', e', he', r', hr', rfl, hparse'⟩ := haddress hread'
  have htenant := ((hk i).seen.invite _ _ _ hread.found).1
  have htenant' := ((hk j).seen.invite _ _ _ hread'.found).1
  rw [hid] at htenant' hborn'
  refine ⟨invite_unique (hk i).justified (hk i).nodup htenant htenant', ?_⟩
  have hmint : ∀ email q, InviteAddressed inv.id email q → Mints q inv.id := by
    rintro email q ⟨_, rfl, hid, -⟩
    rw [← hid]
    exact .invite
  obtain ⟨x, -, ⟨inv₁, hq, -, hemail⟩, inv₂, hq', -, hemail'⟩ := Born.same (hk i).justified
    (hk i).nodup (hmint _) (hmint _) hborn hborn'
  obtain rfl := Update.insertInvite.inj (Req.update.inj (hq.symm.trans hq'))
  rw [← Except.ok.inj (hemail.symm.trans hemail')] at hparse'
  exact hone e he e' he' r hr r' hr' _ hparse hparse'

/-- **How often an invite is used, whatever happens at the same time.** In every interleaving of
calls in which no two accounts have the same address, all calls that join with an invite insert the
same membership, and there are at most as many of them as that member was removed, and one more; and
each of them has looked the invite up before it was first marked as accepted.

**Proof sketch.** The key of the memberships lets a membership in again only after a deletion
(`balanced_of_run`), a marked invite is never read as pending (`marked_of_run`), and the id of an
invite stands for one tenant and one address (`joinedWith_unique`). -/
theorem invite_reuse
    (hr : Run (TenantPoolInit enabled backend calls) (Pool.Step (Env F) World.Beside) tr P)
    (hn : P.world.minted.Nodup) (hone : OneAccountPerAddress tr) (id : Uuid) :
    (∀ joined : List ι, joined.Nodup →
      (∀ i ∈ joined, ∃ t u, JoinedWith calls (Pool.log tr) i id t u) →
      ∃ t u, (∀ i ∈ joined, JoinedWith calls (Pool.log tr) i id t u) ∧
        joined.length ≤ removals t u (Pool.log tr) + 1) ∧
    ∀ i t u, JoinedWith calls (Pool.log tr) i id t u →
      ∃ newer older token inv name, Pool.log tr =
          newer ++ (i, queriedEvent (.inviteByToken token) (some (inv, name))) :: older ∧
        inv.id = id ∧ ∀ k n, (k, markedEvent id n) ∈ older → n = 0 := by
  refine ⟨fun joined hnodup hjoined => ?_, fun i t u h => ?_⟩
  · cases joined with
    | nil => exact ⟨⟨0⟩, ⟨0⟩, fun _ h => absurd h List.not_mem_nil, Nat.zero_le _⟩
    | cons i rest =>
      obtain ⟨t, u, hi⟩ := hjoined i List.mem_cons_self
      have hall : ∀ j ∈ i :: rest, JoinedWith calls (Pool.log tr) j id t u := by
        intro j hj
        obtain ⟨t', u', hj⟩ := hjoined j hj
        obtain ⟨rfl, rfl⟩ := joinedWith_unique hr hn hone hi hj
        exact hj
      refine ⟨t, u, hall, (le_trans ?_ (balanced_of_run hr hn t u).le)⟩
      -- each of the calls has an insertion of its own
      have hsub : i :: rest ⊆
          ((Pool.log tr).filter fun x => insertedKey x.2 = some (t, u)).map (·.1) := by
        intro j hj
        obtain ⟨-, -, -, -, m, row, -, -, -, -, hmem, ht, hu⟩ := (hall j hj).read
        refine List.mem_map.mpr ⟨_, List.mem_filter.mpr ⟨hmem, decide_eq_true ?_⟩, rfl⟩
        rw [← ht, ← hu]
        rfl
      have hlen := (hnodup.subperm hsub).length_le
      rwa [List.length_map, ← List.countP_eq_length_filter] at hlen
  · obtain ⟨token, inv, roleName, role, m, row, -, hread, rfl, -⟩ := h.read
    obtain ⟨newer, Q, older, m, rfl, hold, hE, hnew⟩ :=
      Pool.event_of_log hr (Pool.mem_mine.mp hread.found)
    refine ⟨Pool.log newer, Pool.log older, token, inv, roleName, ?_, rfl, fun k n hmem => ?_⟩
    · rw [Pool.log_append, Pool.log_cons_some]
    · by_contra hne
      obtain ⟨n, rfl⟩ := Nat.exists_eq_succ_of_ne_zero hne
      have hnQ : Q.world.minted.Nodup :=
        (hE.minted.trans (suffix_minted_of_run (fun _ h => h) hnew)).sublist.nodup hn
      have hfound := (Db.of_invite? (exec_of_queriedEvent hE).symm).1
      exact marked_of_run hold hnQ ⟨k, n, hmem⟩ inv hfound rfl hread.pending

end Runs

namespace Scenario

/-- The owner creates a tenant, invites bob and removes him; bob accepts the invite twice. -/
def invitingCalls : Fin 5 → ExecutionContext × TenantCall
  | 0 => (ctx 901, .createTenant "acme" "Acme")
  | 1 => (ctx 901, .createInvite "acme" "bob@x.org" .member)
  | 2 => (ctx 902, .acceptInvite "")
  | 3 => (ctx 902, .acceptInvite "")
  | 4 => (ctx 901, .removeMember "acme" "bob@x.org")

/-- One acceptance has read the invite before the other one marks it, and inserts the membership
after the removal. -/
def lateAcceptance : TenantHistory (Fin 5) × TenantPool (Fin 5) :=
  letI := Unicode.ascii
  Pool.schedule World.answer
    (List.replicate 9 0 ++ List.replicate 10 1 ++ List.replicate 3 3 ++ List.replicate 9 2 ++
      List.replicate 7 4 ++ List.replicate 6 3)
    { threads := fun i => (invitingCalls i).2.run (platform true .database) (invitingCalls i).1,
      world } []

/-- It is an interleaving. -/
theorem run_lateAcceptance : letI := Unicode.ascii
    Run (TenantPoolInit true .database invitingCalls) (Pool.Step (Env noFault) World.Beside)
      lateAcceptance.1 lateAcceptance.2 :=
  let := Unicode.ascii
  Pool.run_schedule (fun q w => env_answer noFault q w) _
    (.start ⟨fun _ => rfl, rfl, rfl, rfl, rfl, rfl⟩)

end Scenario

/-- Both acceptances join with the one invite, and the member was removed once. -/
theorem invite_reuse_lateAcceptance : letI := Unicode.ascii
    ∃ id t u, JoinedWith Scenario.invitingCalls (Pool.log Scenario.lateAcceptance.1) 2 id t u ∧
      JoinedWith Scenario.invitingCalls (Pool.log Scenario.lateAcceptance.1) 3 id t u ∧
      2 ≤ removals t u (Pool.log Scenario.lateAcceptance.1) + 1 := by
  obtain ⟨hinserted, hids, husers, hn⟩ :
      (∀ i : Fin 5, i = 2 ∨ i = 3 → ∃ x ∈ Pool.log Scenario.lateAcceptance.1,
        x.1 = i ∧ insertedKey x.2 = some (⟨0⟩, ⟨902⟩)) ∧
      (∀ e ∈ Scenario.lateAcceptance.1, ∀ inv ∈ e.1.world.db.invites, inv.id = 5) ∧
      (∀ e ∈ Scenario.lateAcceptance.1, ∀ row ∈ e.1.world.db.users,
        (row.id, row.email) ∈ Scenario.world.db.users.map fun row => (row.id, row.email)) ∧
      Scenario.lateAcceptance.2.world.minted.Nodup := by decide +kernel
  have hone : letI := Unicode.ascii
      ∀ x ∈ Scenario.world.db.users.map fun row => (row.id, row.email),
        ∀ y ∈ Scenario.world.db.users.map fun row => (row.id, row.email),
          Email.parse x.2 = Email.parse y.2 → x.1 = y.1 := by decide +kernel
  have hr := Scenario.run_lateAcceptance
  let := Unicode.ascii
  generalize Scenario.lateAcceptance = e at *
  have hjoined : ∀ i : Fin 5, i = 2 ∨ i = 3 →
      ∃ t u, JoinedWith Scenario.invitingCalls (Pool.log e.1) i 5 t u := by
    intro i hi
    obtain ⟨⟨j, x⟩, hx, rfl, hkey⟩ := hinserted i hi
    obtain ⟨row, m, rfl, -, -⟩ := insertedKey_eq_some hkey
    have hcall : (Scenario.invitingCalls j).2 = .acceptInvite "" := by
      rcases hi with rfl | rfl <;> rfl
    obtain ⟨id, hid⟩ := joinedWith_of_inserted (tenantJustified_of_run hr) hcall hx
    obtain ⟨_, inv, _, _, _, _, -, hread, rfl, -⟩ := hid.read
    obtain ⟨newer, Q, older, m, htr, -, hE, -⟩ :=
      Pool.event_of_log hr (Pool.mem_mine.mp hread.found)
    have hfound := (Db.of_invite? (exec_of_queriedEvent hE).symm).1
    have hfive := hids _ (htr ▸ List.mem_append_right _ List.mem_cons_self) inv hfound
    rw [← hfive]
    exact ⟨_, _, hid⟩
  obtain ⟨t, u, hall, hle⟩ := (invite_reuse hr hn
    (fun e he e' he' row hrow row' hrow' address hp hp' => hone _ (husers e he row hrow) _
      (husers e' he' row' hrow') (hp.trans hp'.symm)) 5).1 [2, 3] (by decide)
    (fun i hi => hjoined i (by simpa using hi))
  exact ⟨5, t, u, hall 2 (by simp), hall 3 (by simp), hle⟩

end Klynt
