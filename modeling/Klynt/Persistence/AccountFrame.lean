import Klynt.Persistence.SessionFrame

set_option relaxedAutoImplicit false
set_option autoImplicit false

/-!
# What requests leave of accounts and their tokens

A statement is about the tenant tables, about accounts, or about sessions.  No request takes back
the deletion of an account, and only two kinds of requests, the insertion of a session and
`SETEX`, can give a user a token.

## Main definitions

* `Db.SameAccounts` — two databases agree outside the tenant tables.
* `Update.OnTenancy`, `Update.OnAccounts` — the statements that are not about sessions.
* `Db.Deleted` — the account of a user is marked as deleted.
* `World.TokenOf`, `Req.Spares` — the tokens of a user, and the requests that add none.

## Main results

* `deleted_of_exec` — a deleted account stays deleted.
* `Req.Spares.tokenOf` — a request that spares a user adds no token of the user.
-/

namespace Klynt

variable {now : Time} {db db' : Db}

/-! ## The tenant tables -/

/-- The databases agree outside the tenant tables. -/
def Db.SameAccounts (db db' : Db) : Prop :=
  ∃ tenants memberships tenantRoles rolePermissions invites desktopLayouts,
    db' = { db with tenants, memberships, tenantRoles, rolePermissions, invites, desktopLayouts }

/-- A database agrees with itself. -/
lemma Db.SameAccounts.refl (db : Db) : db.SameAccounts db := ⟨_, _, _, _, _, _, rfl⟩

/-- Agreement is transitive. -/
lemma Db.SameAccounts.trans {db₁ db₂ db₃ : Db} (h : db₁.SameAccounts db₂)
    (h' : db₂.SameAccounts db₃) : db₁.SameAccounts db₃ := by
  obtain ⟨_, _, _, _, _, _, rfl⟩ := h
  obtain ⟨_, _, _, _, _, _, rfl⟩ := h'
  exact ⟨_, _, _, _, _, _, rfl⟩

/-- The users are the same. -/
lemma Db.SameAccounts.users (h : db.SameAccounts db') : db'.users = db.users := by
  obtain ⟨_, _, _, _, _, _, rfl⟩ := h
  rfl

/-- The sessions are the same. -/
lemma Db.SameAccounts.sessions (h : db.SameAccounts db') : db'.sessions = db.sessions := by
  obtain ⟨_, _, _, _, _, _, rfl⟩ := h
  rfl

/-- Statements on the tenant tables. -/
def Update.OnTenancy : Update → Prop
  | tenant _ | dropTenant _ | insertMembership _ | membershipRole _ _ _ _ | deleteMembership _ _
  | dropRole _ _ | insertInvite _ | acceptInvite _ => True
  | _ => False

/-- A statement on the tenant tables changes no other table. -/
lemma Update.OnTenancy.frame {u : Update} (hu : u.OnTenancy) {r : u.Res}
    (h : u.exec now db = .ok (r, db')) : db.SameAccounts db' := by
  cases u with
  | tenant row =>
    obtain ⟨-, rfl⟩ | ⟨-, -, -, -, rfl⟩ := updateTenant_ok h
    · exact .refl _
    · exact ⟨_, _, _, _, _, _, rfl⟩
  | dropTenant id =>
    obtain ⟨-, rfl, -⟩ | ⟨-, rfl⟩ := @deleteTenant_ok now _ _ _ _ h
    · exact .refl _
    · exact ⟨_, _, _, _, _, _, rfl⟩
  | insertMembership row =>
    obtain ⟨-, -, -, -, -, rfl⟩ := @insertMembership_ok now _ _ _ _ h
    exact ⟨_, _, _, _, _, _, rfl⟩
  | membershipRole role t u roleId =>
    obtain ⟨-, -, rfl⟩ := @updateMembershipRole_ok now _ _ _ _ _ _ _ h
    exact ⟨_, _, _, _, _, _, rfl⟩
  | deleteMembership t u =>
    obtain ⟨-, rfl⟩ := @deleteMembership_ok now _ _ _ _ _ h
    exact ⟨_, _, _, _, _, _, rfl⟩
  | dropRole t id =>
    obtain ⟨-, rfl⟩ | ⟨-, -, -, -, rfl⟩ := @deleteRole_ok now _ _ _ _ _ h
    · exact .refl _
    · exact ⟨_, _, _, _, _, _, rfl⟩
  | insertInvite row =>
    obtain ⟨-, -, -, -, -, -, rfl⟩ := @insertInvite_ok now _ _ _ h
    exact ⟨_, _, _, _, _, _, rfl⟩
  | acceptInvite id =>
    obtain ⟨-, rfl⟩ := markInviteAccepted_ok h
    exact ⟨_, _, _, _, _, _, rfl⟩
  | _ => exact hu.elim

/-- The seeding of system roles changes the tenant tables only. -/
lemma seedSystemRoles_frame {t : TenantId} {ids : TenantRole → RoleId}
    (h : seedSystemRoles now t ids db = .ok ((), db')) : db.SameAccounts db' := by
  obtain ⟨_, db₁, hroles, hperms⟩ := Tx.bind_ok.mp h
  obtain ⟨-, rfl⟩ := Prod.mk.inj (Except.ok.inj (Tx.run_ok.mp hperms))
  refine Db.SameAccounts.trans ?_ ⟨_, _, _, _, _, _, rfl⟩
  generalize systemRoles = l at hroles
  clear h hperms
  induction l generalizing db with
  | nil =>
    obtain ⟨-, rfl⟩ := Prod.mk.inj (Except.ok.inj hroles)
    exact .refl _
  | cons x l ih =>
    obtain ⟨_, db₂, hx, hrest⟩ := Tx.bind_ok.mp hroles
    refine Db.SameAccounts.trans ?_ (ih hrest)
    have hins := Tx.run_ok.mp hx
    unfold insertSystemRole at hins
    split at hins
    · obtain ⟨-, rfl⟩ := Prod.mk.inj (Except.ok.inj hins)
      exact .refl _
    · split at hins
      · cases hins
      · split at hins
        · cases hins
        · obtain ⟨-, rfl⟩ := Prod.mk.inj (Except.ok.inj hins)
          exact ⟨_, _, _, _, _, _, rfl⟩

/-- A transaction changes the tenant tables only. -/
lemma Transaction.frame {t : Transaction} {r : t.Res} (h : t.exec now db = .ok (r, db')) :
    db.SameAccounts db' := by
  cases t with
  | createTenant tenant ids =>
    replace h : createTenantTx now tenant ids db = .ok (r, db') := h
    unfold createTenantTx at h
    obtain ⟨row, db₁, hins, h₁⟩ := Tx.bind_ok.mp h
    obtain ⟨_, db₂, hseed, h₂⟩ := Tx.bind_ok.mp h₁
    obtain ⟨roleId, db₃, hrole, h₃⟩ := Tx.bind_ok.mp h₂
    obtain ⟨m, db₄, hm, h₄⟩ := Tx.bind_ok.mp h₃
    obtain ⟨-, hdb⟩ := Prod.mk.inj (Except.ok.inj h₄)
    obtain ⟨-, -, -, -, -, -, hdb₁⟩ := insertTenant_ok (Tx.run_ok.mp hins)
    obtain ⟨-, -, -, hdb₃⟩ := txRoleIdByName_ok hrole
    have htenant : db.SameAccounts db₁ := ⟨_, _, _, _, _, _, hdb₁⟩
    have hmember := Update.OnTenancy.frame (u := .insertMembership _) trivial (Tx.run_ok.mp hm)
    rw [hdb₃, hdb] at hmember
    exact (htenant.trans (seedSystemRoles_frame hseed)).trans hmember
  | createRole role =>
    obtain ⟨-, -, -, -, rfl⟩ := createRoleTx_ok h
    exact ⟨_, _, _, _, _, _, rfl⟩
  | updateRolePermissions t id ps =>
    obtain ⟨-, rfl⟩ := updateRolePermissionsTx_ok h
    exact ⟨_, _, _, _, _, _, rfl⟩

/-! ## Accounts -/

/-- Statements on users and their one-time tokens. -/
def Update.OnAccounts : Update → Prop
  | insertUser _ | updatePassword _ _ | updateUser _ | deleteUser _ | activateUser _
  | insertToken _ _ _ _ | consumeToken _ _ => True
  | _ => False

/-- A user that was inserted, or not because of its address. -/
lemma insertUser_ok {row : UserRow} {r : Option UserId}
    (h : insertUser row now db = .ok (r, db')) :
    (r = none ∧ db' = db) ∨ r = some row.id ∧ (∀ x ∈ db.users, x.id ≠ row.id) ∧
      ∃ email username name, db' = { db with
        users := db.users ++ [{ row with email, username, name }] } := by
  unfold insertUser at h
  obtain ⟨email, -, h⟩ := Except.bind_eq_ok.mp h
  obtain ⟨username, -, h⟩ := Except.bind_eq_ok.mp h
  obtain ⟨name, -, h⟩ := Except.bind_eq_ok.mp h
  obtain ⟨_, -, h⟩ := Except.bind_eq_ok.mp h
  simp only [bind, Except.bind, pure, Except.pure] at h
  split at h
  · obtain ⟨rfl, rfl⟩ := Prod.mk.inj (Except.ok.inj h)
    exact .inl ⟨rfl, rfl⟩
  · split at h
    · cases h
    · rename_i hid
      split at h
      · cases h
      · obtain ⟨rfl, rfl⟩ := Prod.mk.inj (Except.ok.inj h)
        exact .inr ⟨rfl, by simpa using hid, email, username, name, rfl⟩

/-- An updated password. -/
lemma updatePassword_ok {u : UserId} {hash : String} {n : Nat}
    (h : updatePassword u hash now db = .ok (n, db')) :
    n = db.users.countP (·.id = u) ∧ db' = { db with
      users := db.users.map fun row =>
        if row.id = u then { row with passwordHash := hash, updatedAt := now } else row } := by
  obtain ⟨_, -, h⟩ := Except.bind_eq_ok.mp h
  obtain ⟨rfl, rfl⟩ := Prod.mk.inj (Except.ok.inj h)
  exact ⟨rfl, rfl⟩

/-- An updated user. -/
lemma updateUser_ok {new : UserRow} {n : Nat} (h : updateUser new now db = .ok (n, db')) :
    ∃ username name termsVersion, varchar 50 new.username = .ok username ∧
      varchar 255 new.name = .ok name ∧ varchar 50 new.termsVersion = .ok termsVersion ∧
      Storable new.passwordHash ∧ n = db.users.countP (·.id = new.id) ∧ db' = { db with
      users := db.users.map fun row =>
        if row.id = new.id then
          { new with email := row.email, username, name, termsVersion, createdAt := row.createdAt,
                     updatedAt := now, deletedAt := row.deletedAt }
        else row } := by
  unfold updateUser at h
  obtain ⟨username, husername, h⟩ := Except.bind_eq_ok.mp h
  obtain ⟨name, hname, h⟩ := Except.bind_eq_ok.mp h
  obtain ⟨termsVersion, hterms, h⟩ := Except.bind_eq_ok.mp h
  obtain ⟨_, hhash, h⟩ := Except.bind_eq_ok.mp h
  simp only [bind, Except.bind, pure, Except.pure] at h
  split at h
  · cases h
  · obtain ⟨rfl, rfl⟩ := Prod.mk.inj (Except.ok.inj h)
    exact ⟨username, name, termsVersion, husername, hname, hterms, checkText_eq_ok.mp hhash, rfl, rfl⟩

/-- A stored one-time token has a new hash. -/
lemma insertToken_ok {kind : TokenKind} {u : UserId} {hash : String} {expiresAt : Time}
    (h : insertToken kind u hash expiresAt now db = .ok ((), db')) :
    ∃ tokenHash, varchar 64 hash = .ok tokenHash ∧
      (∀ row ∈ db.tokens kind, row.tokenHash ≠ tokenHash) ∧
      db' = db.withTokens
        (db.tokens kind ++ [{ userId := u, tokenHash, expiresAt, usedAt := none }]) kind := by
  unfold insertToken at h
  cases hhash : varchar 64 hash with
  | error e => simp [hhash, bind, Except.bind] at h
  | ok tokenHash =>
    simp only [hhash, bind, Except.bind, pure, Except.pure] at h
    split at h
    · cases h
    · rename_i hnew
      split at h
      · cases h
      · obtain ⟨-, rfl⟩ := Prod.mk.inj (Except.ok.inj h)
        exact ⟨tokenHash, rfl, by simpa using hnew, rfl⟩

/-- The account of a user exists and is marked as deleted. -/
def Db.Deleted (db : Db) (u : UserId) : Prop :=
  (∃ row ∈ db.users, row.id = u) ∧ ∀ row ∈ db.users, row.id = u → row.deletedAt.isSome = true

/-- A deletion is kept if every row keeps its id and its mark. -/
lemma Db.Deleted.of_forall₂ {u : UserId} (h : db.Deleted u)
    (hrows : List.Forall₂ (fun row row' : UserRow => row'.id = row.id ∧
      (row.deletedAt.isSome = true → row'.deletedAt.isSome = true)) db.users db'.users) :
    db'.Deleted u := by
  obtain ⟨⟨row, hrow, hid⟩, hall⟩ := h
  constructor
  · obtain ⟨row', hrow', hid', -⟩ := hrows.exists_right hrow
    exact ⟨row', hrow', hid'.trans hid⟩
  · intro row' hrow' hid'
    obtain ⟨row₀, hrow₀, hid₀, hmark⟩ := hrows.exists_left hrow'
    exact hmark (hall row₀ hrow₀ (hid₀.symm.trans hid'))

/-- A deletion is kept if every row is changed by a function that keeps ids and marks. -/
lemma Db.Deleted.map {u : UserId} {f : UserRow → UserRow} (h : db.Deleted u)
    (hid : ∀ row, (f row).id = row.id)
    (hmark : ∀ row, row.deletedAt.isSome = true → (f row).deletedAt.isSome = true)
    (hdb : db'.users = db.users.map f) : db'.Deleted u := by
  refine h.of_forall₂ ?_
  rw [hdb]
  exact List.forall₂_map_right_iff.mpr (List.forall₂_same.mpr fun row _ => ⟨hid row, hmark row⟩)

/-- A deletion depends on the users only. -/
lemma Db.Deleted.congr {u : UserId} (h : db.Deleted u) (hdb : db'.users = db.users) :
    db'.Deleted u := by
  unfold Db.Deleted
  rwa [hdb]

/-- No statement takes back a deletion. -/
lemma Update.deleted {q : Update} {r : q.Res} {u : UserId} (h : q.exec now db = .ok (r, db'))
    (hu : db.Deleted u) : db'.Deleted u := by
  have htenancy : q.OnTenancy → db'.Deleted u := fun hq => hu.congr (hq.frame h).users
  have hsessions : q.OnSessions → db'.Deleted u := by
    intro hq
    obtain ⟨_, rfl⟩ := hq.frame h
    exact hu
  cases q with
  | insertUser row =>
    obtain ⟨-, rfl⟩ | ⟨-, hnew, email, username, name, rfl⟩ := @insertUser_ok now _ _ _ _ h
    · exact hu
    · obtain ⟨⟨x, hx, hid⟩, hall⟩ := hu
      refine ⟨⟨x, List.mem_append_left _ hx, hid⟩, fun y hy hid' => ?_⟩
      rcases List.mem_append.mp hy with hy | hy
      · exact hall y hy hid'
      · -- the new row has an id that no other row has
        obtain rfl := List.mem_singleton.mp hy
        exact absurd (hid.trans hid'.symm) (hnew x hx)
  | updatePassword v hash =>
    obtain ⟨-, rfl⟩ := updatePassword_ok h
    refine hu.map ?_ ?_ rfl
    · intro row; split <;> rfl
    · intro row hrow; split <;> exact hrow
  | updateUser new =>
    obtain ⟨username, name, termsVersion, -, -, -, -, -, rfl⟩ := updateUser_ok h
    refine hu.map ?_ ?_ rfl
    · intro row
      split
      · rename_i hid; exact hid.symm
      · rfl
    · intro row hrow; split <;> exact hrow
  | deleteUser v =>
    obtain ⟨-, rfl⟩ := Prod.mk.inj (Except.ok.inj h)
    refine hu.map ?_ ?_ rfl
    · intro row; split <;> rfl
    · intro row hrow
      split
      · rfl
      · exact hrow
  | activateUser v =>
    obtain ⟨-, rfl⟩ := Prod.mk.inj (Except.ok.inj h)
    refine hu.map ?_ ?_ rfl
    · intro row; split <;> rfl
    · intro row hrow; split <;> exact hrow
  | insertToken kind v hash expiresAt =>
    obtain ⟨_, -, -, rfl⟩ := @insertToken_ok now _ _ _ _ _ _ h
    exact hu.congr (Db.users_withTokens ..)
  | consumeToken kind hash =>
    obtain ⟨-, rfl⟩ := Prod.mk.inj (Except.ok.inj h)
    exact hu.congr (Db.users_withTokens ..)
  | tenant _ => exact htenancy trivial
  | dropTenant _ => exact htenancy trivial
  | insertMembership _ => exact htenancy trivial
  | membershipRole _ _ _ _ => exact htenancy trivial
  | deleteMembership _ _ => exact htenancy trivial
  | dropRole _ _ => exact htenancy trivial
  | insertInvite _ => exact htenancy trivial
  | acceptInvite _ => exact htenancy trivial
  | insertSession _ _ _ _ _ _ => exact hsessions trivial
  | deleteSession _ => exact hsessions trivial
  | deletePair _ _ => exact hsessions trivial
  | setMemberships _ _ => exact hsessions trivial
  | addSnapshot _ _ => exact hsessions trivial
  | updateSnapshot _ _ => exact hsessions trivial
  | removeSnapshot _ _ => exact hsessions trivial

/-- No request takes back a deletion. -/
lemma Env.deleted {F : Req → Prop} {q : Req} {w w' : World} {a : Ans q} {u : UserId}
    (h : Env F q w a w') (hu : w.db.Deleted u) : w'.db.Deleted u := by
  cases q with
  | clock => obtain ⟨-, rfl⟩ := h; exact hu
  | uuid => obtain rfl := h; exact hu
  | secureToken => obtain rfl := h; exact hu
  | query q => obtain ⟨rfl, -⟩ := h; exact hu
  | update q =>
    obtain ⟨r, db, hx, -, rfl⟩ | ⟨e, -, -, rfl⟩ | ⟨-, -, rfl⟩ := h
    · exact Update.deleted hx hu
    · exact hu
    · exact hu
  | transaction t =>
    obtain ⟨r, db, hx, -, rfl⟩ | ⟨e, -, -, rfl⟩ | ⟨-, -, rfl⟩ := h
    · exact hu.congr (Transaction.frame hx).users
    · exact hu
    · exact hu
  | redis c => obtain ⟨-, rfl⟩ | ⟨-, -, _, rfl, -⟩ := h <;> exact hu
  | verifyPassword p s => obtain rfl := h; exact hu
  | hashPassword p => obtain rfl := h; exact hu
  | sendVerification e t b => obtain rfl := h; exact hu
  | sendPasswordReset e t b => obtain rfl := h; exact hu

/-- **A deleted account stays deleted**, whatever a program does and whatever fails. -/
theorem deleted_of_exec {F : Req → Prop} {ε α : Type} {p : Action ε α} {w w' : World}
    {r : Except ε α} {u : UserId} (h : p.Exec (Env F) w r w') (hu : w.db.Deleted u) :
    w'.db.Deleted u :=
  h.rel (R := fun w w' : World => w.db.Deleted u → w'.db.Deleted u) (fun _ hu => hu)
    (fun h₁ h₂ hu => h₂ (h₁ hu)) (fun _ _ _ _ _ hE hu => Env.deleted hE hu) p.all_true hu

/-! ## The tokens of a user -/

/-- The token is one of a session of the user, stored or cached. -/
def World.TokenOf (w : World) (u : UserId) (token : SessionToken) : Prop :=
  (∃ row ∈ w.db.sessions, row.token = token ∧ row.userId = u) ∨
    ∃ e, w.redis token = some e ∧ e.session.userId = u

/-- Requests that give a user no token: a new session is another user's, and so is a cached one
unless its token is already a token of the user. -/
def Req.Spares (u : UserId) : Req → World → Prop
  | .update (.insertSession _ _ v _ _ _), _ => v ≠ u
  | .redis (.setex token _ session), w => session.userId = u → w.TokenOf u token
  | _, _ => True

/-- Requests that give a user no token in any world. -/
abbrev Req.AlwaysSpares (u : UserId) (q : Req) : Prop := ∀ w, q.Spares u w

/-- Fewer sessions and fewer cache entries are fewer tokens. -/
lemma World.Evolves.tokenOf {w w' : World} (h : w.Evolves w') {u : UserId} {token : SessionToken}
    (ht : w'.TokenOf u token) : w.TokenOf u token := by
  rcases ht with ⟨row', hrow', htoken, huser⟩ | ⟨e, he, huser⟩
  · obtain ⟨row, hrow, _, rfl⟩ := h.sessions row' hrow'
    exact .inl ⟨row, hrow, htoken, huser⟩
  · rcases h.redis token with hk | hk
    · exact .inr ⟨e, hk ▸ he, huser⟩
    · rw [hk] at he
      cases he

/-- The tokens of a user depend on the sessions and the cache only. -/
lemma World.TokenOf.congr {w w' : World} {u : UserId} {token : SessionToken}
    (ht : w'.TokenOf u token) (hs : w'.db.sessions = w.db.sessions) (hr : w'.redis = w.redis) :
    w.TokenOf u token := by
  unfold World.TokenOf at ht
  rwa [hs, hr] at ht

/-- A statement that spares a user adds no session of the user. -/
lemma Update.rows_of_spares {q : Update} {r : q.Res} {u : UserId} {w : World}
    (hq : (Req.update q).Spares u w) (h : q.exec now db = .ok (r, db')) :
    ∀ row' ∈ db'.sessions, row'.userId = u →
      ∃ row ∈ db.sessions, row.token = row'.token ∧ row.userId = u := by
  have hsame : db'.sessions = db.sessions → ∀ row' ∈ db'.sessions, row'.userId = u →
      ∃ row ∈ db.sessions, row.token = row'.token ∧ row.userId = u := by
    intro hs row' hrow' hu
    exact ⟨row', hs ▸ hrow', rfl, hu⟩
  have htenancy : q.OnTenancy → ∀ row' ∈ db'.sessions, row'.userId = u →
      ∃ row ∈ db.sessions, row.token = row'.token ∧ row.userId = u :=
    fun hq => hsame (hq.frame h).sessions
  have hquiet : q.Quiet → ∀ row' ∈ db'.sessions, row'.userId = u →
      ∃ row ∈ db.sessions, row.token = row'.token ∧ row.userId = u := by
    intro hq row' hrow' hu
    obtain ⟨row, hrow, _, rfl⟩ := hq.rows h row' hrow'
    exact ⟨row, hrow, rfl, hu⟩
  cases q with
  | insertSession id token v kind pairId expiresAt =>
    obtain ⟨-, -, -, rfl⟩ := @insertSession_ok now _ _ _ _ _ _ _ _ h
    intro row' hrow' hu
    rcases List.mem_append.mp hrow' with hrow' | hrow'
    · exact ⟨row', hrow', rfl, hu⟩
    · obtain rfl := List.mem_singleton.mp hrow'
      exact absurd hu hq
  | insertUser row =>
    obtain ⟨-, rfl⟩ | ⟨-, -, _, _, _, rfl⟩ := @insertUser_ok now _ _ _ _ h
    · exact hsame rfl
    · exact hsame rfl
  | updatePassword v hash =>
    obtain ⟨-, rfl⟩ := updatePassword_ok h; exact hsame rfl
  | updateUser new =>
    obtain ⟨_, _, _, -, -, -, -, -, rfl⟩ := updateUser_ok h; exact hsame rfl
  | deleteUser v =>
    obtain ⟨-, rfl⟩ := Prod.mk.inj (Except.ok.inj h); exact hsame rfl
  | activateUser v =>
    obtain ⟨-, rfl⟩ := Prod.mk.inj (Except.ok.inj h); exact hsame rfl
  | insertToken kind v hash expiresAt =>
    obtain ⟨_, -, -, rfl⟩ := @insertToken_ok now _ _ _ _ _ _ h
    exact hsame (Db.sessions_withTokens ..)
  | consumeToken kind hash =>
    obtain ⟨-, rfl⟩ := Prod.mk.inj (Except.ok.inj h)
    exact hsame (Db.sessions_withTokens ..)
  | tenant _ => exact htenancy trivial
  | dropTenant _ => exact htenancy trivial
  | insertMembership _ => exact htenancy trivial
  | membershipRole _ _ _ _ => exact htenancy trivial
  | deleteMembership _ _ => exact htenancy trivial
  | dropRole _ _ => exact htenancy trivial
  | insertInvite _ => exact htenancy trivial
  | acceptInvite _ => exact htenancy trivial
  | deleteSession _ => exact hquiet trivial
  | deletePair _ _ => exact hquiet trivial
  | setMemberships _ _ => exact hquiet trivial
  | addSnapshot _ _ => exact hquiet trivial
  | updateSnapshot _ _ => exact hquiet trivial
  | removeSnapshot _ _ => exact hquiet trivial

/-- A request that spares a user adds no session of the user. -/
lemma Req.Spares.rows {F : Req → Prop} {q : Req} {w w' : World} {a : Ans q} {u : UserId}
    (hq : q.Spares u w) (h : Env F q w a w') :
    ∀ row' ∈ w'.db.sessions, row'.userId = u →
      ∃ row ∈ w.db.sessions, row.token = row'.token ∧ row.userId = u := by
  have hsame : w'.db.sessions = w.db.sessions → ∀ row' ∈ w'.db.sessions, row'.userId = u →
      ∃ row ∈ w.db.sessions, row.token = row'.token ∧ row.userId = u := by
    intro hs row' hrow' hu
    exact ⟨row', hs ▸ hrow', rfl, hu⟩
  cases q with
  | clock => obtain ⟨-, rfl⟩ := h; exact hsame rfl
  | uuid => obtain rfl := h; exact hsame rfl
  | secureToken => obtain rfl := h; exact hsame rfl
  | query q => obtain ⟨rfl, -⟩ := h; exact hsame rfl
  | update q =>
    obtain ⟨r, db, hx, -, rfl⟩ | ⟨e, -, -, rfl⟩ | ⟨-, -, rfl⟩ := h
    · exact Update.rows_of_spares hq hx
    · exact hsame rfl
    · exact hsame rfl
  | transaction t =>
    obtain ⟨r, db, hx, -, rfl⟩ | ⟨e, -, -, rfl⟩ | ⟨-, -, rfl⟩ := h
    · exact hsame (Transaction.frame hx).sessions
    · exact hsame rfl
    · exact hsame rfl
  | redis c => obtain ⟨-, rfl⟩ | ⟨-, -, _, rfl, -⟩ := h <;> exact hsame rfl
  | verifyPassword p s => obtain rfl := h; exact hsame rfl
  | hashPassword p => obtain rfl := h; exact hsame rfl
  | sendVerification e t b => obtain rfl := h; exact hsame rfl
  | sendPasswordReset e t b => obtain rfl := h; exact hsame rfl

/-- A request that spares a user caches no session of the user under another's token. -/
lemma Req.Spares.cached {F : Req → Prop} {q : Req} {w w' : World} {a : Ans q} {u : UserId}
    (hq : q.Spares u w) (h : Env F q w a w') {token : SessionToken} {e : CacheEntry}
    (he : w'.redis token = some e) (hu : e.session.userId = u) : w.TokenOf u token := by
  cases q with
  | clock => obtain ⟨-, rfl⟩ := h; exact .inr ⟨e, he, hu⟩
  | uuid => obtain rfl := h; exact .inr ⟨e, he, hu⟩
  | secureToken => obtain rfl := h; exact .inr ⟨e, he, hu⟩
  | query q => obtain ⟨rfl, -⟩ := h; exact .inr ⟨e, he, hu⟩
  | update q =>
    obtain ⟨_, _, -, -, rfl⟩ | ⟨_, -, -, rfl⟩ | ⟨-, -, rfl⟩ := h <;> exact .inr ⟨e, he, hu⟩
  | transaction t =>
    obtain ⟨_, _, -, -, rfl⟩ | ⟨_, -, -, rfl⟩ | ⟨-, -, rfl⟩ := h <;> exact .inr ⟨e, he, hu⟩
  | redis c =>
    -- after the command, the entry is the old one or the one it wrote
    have hentry : w'.redis token = w.redis token ∨
        w'.redis token = c.effect w.now w.redis token := by
      obtain ⟨-, rfl⟩ | ⟨-, -, redis, rfl, hredis⟩ := h
      · exact .inr rfl
      · exact hredis token
    rcases hentry with hk | hk
    · exact .inr ⟨e, hk ▸ he, hu⟩
    · replace he : c.effect w.now w.redis token = some e := hk ▸ he
      cases c with
      | get k => exact .inr ⟨e, he, hu⟩
      | setex k ttl session =>
        by_cases htoken : token = k
        · subst htoken
          rw [Command.effect, Function.update_self] at he
          obtain rfl := Option.some.inj he
          exact hq hu
        · rw [Command.effect, Function.update_of_ne htoken] at he
          exact .inr ⟨e, he, hu⟩
      | del tokens =>
        replace he : (if token ∈ tokens then none else w.redis token) = some e := he
        split at he
        · cases he
        · exact .inr ⟨e, he, hu⟩
  | verifyPassword p s => obtain rfl := h; exact .inr ⟨e, he, hu⟩
  | hashPassword p => obtain rfl := h; exact .inr ⟨e, he, hu⟩
  | sendVerification _ _ _ => obtain rfl := h; exact .inr ⟨e, he, hu⟩
  | sendPasswordReset _ _ _ => obtain rfl := h; exact .inr ⟨e, he, hu⟩

/-- **A request that spares a user** adds no token of the user, whatever fails. -/
theorem Req.Spares.tokenOf {F : Req → Prop} {q : Req} {w w' : World} {a : Ans q} {u : UserId}
    (hq : q.Spares u w) (h : Env F q w a w') {token : SessionToken} (ht : w'.TokenOf u token) :
    w.TokenOf u token := by
  rcases ht with ⟨row', hrow', rfl, hu⟩ | ⟨e, he, hu⟩
  · exact .inl (hq.rows h row' hrow' hu)
  · exact hq.cached h he hu

end Klynt
