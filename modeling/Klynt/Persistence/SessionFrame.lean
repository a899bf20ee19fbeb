import Klynt.Persistence.Inversion
import Klynt.Persistence.SessionStore

set_option relaxedAutoImplicit false
set_option autoImplicit false

/-!
# What requests on sessions leave alone

The session stores issue few kinds of requests.  All of them leave the other tables as they
are, and all but two (a new session, a filled cache entry) only edit the snapshots of sessions
or delete sessions and cache entries.

## Main definitions

* `Req.OnSessions`, `World.SessionsMoved` — the requests on sessions, and what they change.
* `Req.Quiet`, `World.Evolves` — those that add no session and no cache entry.

## Main results

* `Req.OnSessions.moved`, `Req.Quiet.evolves` — one request.
* `CachedSessionStore.all_invalidateActiveTokens`, … — which requests the stores issue.
-/

namespace Klynt

/-! ## Requests that leave the other tables alone -/

/-- Statements on sessions. -/
def Update.OnSessions : Update → Prop
  | insertSession _ _ _ _ _ _ | deleteSession _ | deletePair _ _ | setMemberships _ _
  | addSnapshot _ _ | updateSnapshot _ _ | removeSnapshot _ _ => True
  | _ => False

/-- A row after an edit of the snapshots of a user's active sessions. -/
def SessionRow.Edited (edit : Json → Except String Json) (u : UserId) (now : Time)
    (row row' : SessionRow) : Prop :=
  ∃ column, row' = { row with tenantMemberships := column } ∧
    if row.userId = u ∧ row.active now then edit row.tenantMemberships = .ok column
    else column = row.tenantMemberships

/-- The snapshots of a user's active sessions are edited one by one. -/
theorem editSessionMemberships_ok {edit : Json → Except String Json} {u : UserId} {now : Time}
    {db db' : Db} (h : editSessionMemberships edit u now db = .ok ((), db')) :
    ∃ sessions, db' = { db with sessions } ∧
      List.Forall₂ (SessionRow.Edited edit u now) db.sessions sessions := by
  unfold editSessionMemberships at h
  simp only at h
  split at h
  · rename_i sessions hedited
    obtain ⟨-, rfl⟩ := Prod.mk.inj (Except.ok.inj h)
    refine ⟨sessions, rfl, (Except.mapM_eq_ok.mp hedited).imp fun row row' hrow => ?_⟩
    split at hrow
    · rename_i hactive
      cases hcolumn : edit row.tenantMemberships with
      | ok column =>
        rw [hcolumn] at hrow
        exact ⟨column, (Except.ok.inj hrow).symm, by rw [if_pos hactive, hcolumn]⟩
      | error e => rw [hcolumn] at hrow; cases hrow
    · rename_i hactive
      exact ⟨row.tenantMemberships, (Except.ok.inj hrow).symm, by rw [if_neg hactive]⟩
  · cases h

/-- A statement on sessions changes no other table. -/
theorem Update.OnSessions.frame {u : Update} (hu : u.OnSessions) {now : Time} {db db' : Db}
    {r : u.Res} (h : u.exec now db = .ok (r, db')) : ∃ sessions, db' = { db with sessions } := by
  have hedit : ∀ edit v, editSessionMemberships edit v now db = .ok ((), db') →
      ∃ sessions, db' = { db with sessions } := by
    intro edit v h
    obtain ⟨sessions, hdb, -⟩ := editSessionMemberships_ok h
    exact ⟨sessions, hdb⟩
  cases u with
  | insertSession id token u kind pairId expiresAt =>
    obtain ⟨-, -, -, rfl⟩ := insertSession_ok h; exact ⟨_, rfl⟩
  | deleteSession token => obtain ⟨-, rfl⟩ := Prod.mk.inj (Except.ok.inj h); exact ⟨_, rfl⟩
  | deletePair pairId token => obtain ⟨-, rfl⟩ := Prod.mk.inj (Except.ok.inj h); exact ⟨_, rfl⟩
  | setMemberships token l => obtain ⟨-, rfl⟩ := Prod.mk.inj (Except.ok.inj h); exact ⟨_, rfl⟩
  | addSnapshot u s => exact hedit _ _ h
  | updateSnapshot u s => exact hedit _ _ h
  | removeSnapshot u t => exact hedit _ _ h
  | _ => exact hu.elim

/-- Requests that change at most sessions, the cache and the generator. -/
def Req.OnSessions : Req → Prop
  | .update u => u.OnSessions
  | .transaction _ => False
  | _ => True

/-- What such a request leaves. -/
def World.SessionsMoved (w w' : World) : Prop :=
  ∃ sessions redis minted, w' = { w with db := { w.db with sessions }, redis, minted }

/-- A request on sessions moves sessions only. -/
theorem Req.OnSessions.moved {q : Req} (hq : q.OnSessions) {F : Req → Prop} {w w' : World}
    {a : Ans q} (h : Env F q w a w') : w.SessionsMoved w' := by
  cases q with
  | clock => obtain ⟨-, rfl⟩ := h; exact ⟨_, _, _, rfl⟩
  | uuid => obtain rfl := h; exact ⟨_, _, _, rfl⟩
  | secureToken => obtain rfl := h; exact ⟨_, _, _, rfl⟩
  | query q => obtain ⟨rfl, -⟩ := h; exact ⟨_, _, _, rfl⟩
  | update u =>
    rcases h with ⟨r, db, hx, -, rfl⟩ | ⟨e, -, -, rfl⟩ | ⟨-, -, rfl⟩
    · obtain ⟨_, rfl⟩ := Update.OnSessions.frame hq hx; exact ⟨_, _, _, rfl⟩
    · exact ⟨_, _, _, rfl⟩
    · exact ⟨_, _, _, rfl⟩
  | transaction t => exact hq.elim
  | redis c =>
    rcases h with ⟨-, rfl⟩ | ⟨-, -, redis, rfl, -⟩
    · exact ⟨_, _, _, rfl⟩
    · exact ⟨_, _, _, rfl⟩
  | verifyPassword p s => obtain rfl := h; exact ⟨_, _, _, rfl⟩
  | hashPassword p => obtain rfl := h; exact ⟨_, _, _, rfl⟩
  | sendVerification e t b => obtain rfl := h; exact ⟨_, _, _, rfl⟩
  | sendPasswordReset e t b => obtain rfl := h; exact ⟨_, _, _, rfl⟩

/-- A program of such requests moves sessions only. -/
theorem sessionsMoved_of_exec {ε α : Type} {p : Action ε α} (hp : p.All Req.OnSessions)
    {F : Req → Prop} {w w' : World} {r : Except ε α} (h : p.Exec (Env F) w r w') :
    w.SessionsMoved w' :=
  h.rel (fun w => ⟨_, _, _, rfl⟩)
    (by rintro w₁ w₂ w₃ ⟨_, _, _, rfl⟩ ⟨_, _, _, rfl⟩; exact ⟨_, _, _, rfl⟩)
    (fun _ _ _ _ hq hE => Req.OnSessions.moved hq hE) hp

/-! ## Requests that add no session and no cache entry -/

/-- Statements on sessions other than the insertion of one. -/
def Update.Quiet : Update → Prop
  | insertSession _ _ _ _ _ _ => False
  | u => u.OnSessions

/-- Such a statement leaves rows that differ from earlier ones in their snapshots at most. -/
theorem Update.Quiet.rows {u : Update} (hu : u.Quiet) {now : Time} {db db' : Db} {r : u.Res}
    (h : u.exec now db = .ok (r, db')) : ∀ row' ∈ db'.sessions, ∃ row ∈ db.sessions,
      ∃ column, row' = { row with tenantMemberships := column } := by
  have hedit : ∀ edit v, editSessionMemberships edit v now db = .ok ((), db') →
      ∀ row' ∈ db'.sessions, ∃ row ∈ db.sessions,
        ∃ column, row' = { row with tenantMemberships := column } := by
    intro edit v h row' hrow'
    obtain ⟨sessions, rfl, hedited⟩ := editSessionMemberships_ok h
    obtain ⟨row, hrow, column, heq, -⟩ := hedited.exists_left hrow'
    exact ⟨row, hrow, column, heq⟩
  cases u with
  | deleteSession token =>
    obtain ⟨-, rfl⟩ := Prod.mk.inj (Except.ok.inj h)
    exact fun row hrow => ⟨row, (List.mem_filter.mp hrow).1, row.tenantMemberships, rfl⟩
  | deletePair pairId token =>
    obtain ⟨-, rfl⟩ := Prod.mk.inj (Except.ok.inj h)
    exact fun row hrow => ⟨row, (List.mem_filter.mp hrow).1, row.tenantMemberships, rfl⟩
  | setMemberships token l =>
    obtain ⟨-, rfl⟩ := Prod.mk.inj (Except.ok.inj h)
    intro row' hrow'
    obtain ⟨row, hrow, rfl⟩ := List.mem_map.mp hrow'
    refine ⟨row, hrow, if row.token = token then MembershipSnapshot.encode l
      else row.tenantMemberships, ?_⟩
    split <;> rfl
  | addSnapshot u s => exact hedit _ _ h
  | updateSnapshot u s => exact hedit _ _ h
  | removeSnapshot u t => exact hedit _ _ h
  | _ => exact hu.elim

/-- Such a statement duplicates no token. -/
theorem Update.Quiet.tokens {u : Update} (hu : u.Quiet) {now : Time} {db db' : Db} {r : u.Res}
    (h : u.exec now db = .ok (r, db')) (hnodup : (db.sessions.map (·.token)).Nodup) :
    (db'.sessions.map (·.token)).Nodup := by
  have hedit : ∀ edit v, editSessionMemberships edit v now db = .ok ((), db') →
      (db'.sessions.map (·.token)).Nodup := by
    intro edit v h
    obtain ⟨sessions, rfl, hedited⟩ := editSessionMemberships_ok h
    have htokens : db.sessions.map (·.token) = sessions.map (·.token) := by
      refine hedited.map_eq fun row row' hrow => ?_
      obtain ⟨_, rfl, -⟩ := hrow
      rfl
    exact htokens ▸ hnodup
  cases u with
  | deleteSession x =>
    obtain ⟨-, rfl⟩ := Prod.mk.inj (Except.ok.inj h)
    exact Keyed.nodup_filter _ hnodup
  | deletePair p x =>
    obtain ⟨-, rfl⟩ := Prod.mk.inj (Except.ok.inj h)
    exact Keyed.nodup_filter _ hnodup
  | setMemberships x l =>
    obtain ⟨-, rfl⟩ := Prod.mk.inj (Except.ok.inj h)
    exact Keyed.nodup_map _ (fun row => by split <;> rfl) hnodup
  | addSnapshot u s => exact hedit _ _ h
  | updateSnapshot u s => exact hedit _ _ h
  | removeSnapshot u s => exact hedit _ _ h
  | _ => exact hu.elim

/-- Requests that add no session and no cache entry. -/
def Req.Quiet : Req → Prop
  | .update u => u.Quiet
  | .transaction _ => False
  | .redis (.setex _ _ _) => False
  | _ => True

/-- Such a request is one on sessions. -/
theorem Req.Quiet.onSessions {q : Req} (hq : q.Quiet) : q.OnSessions := by
  cases q with
  | update u => cases u <;> first | exact hq.elim | trivial
  | transaction t => exact hq.elim
  | _ => trivial

/-- What can happen without a new session or cache entry: time passes, UUIDs are drawn,
snapshots change, and sessions and cache entries go away. -/
structure World.Evolves (w w' : World) : Prop where
  /-- Time does not run backwards. -/
  now : w.now ≤ w'.now
  /-- No UUID is forgotten. -/
  minted : w.minted <:+ w'.minted
  /-- Every session was there before. -/
  sessions : ∀ row' ∈ w'.db.sessions, ∃ row ∈ w.db.sessions,
    ∃ column, row' = { row with tenantMemberships := column }
  /-- Every cache entry was there before. -/
  redis : ∀ k, w'.redis k = w.redis k ∨ w'.redis k = none

namespace World.Evolves

variable {w w' w'' : World}

/-- Nothing happens. -/
theorem refl (w : World) : w.Evolves w :=
  ⟨le_rfl, List.suffix_rfl, fun row hrow => ⟨row, hrow, row.tenantMemberships, rfl⟩,
    fun _ => .inl rfl⟩

/-- One thing after another. -/
theorem trans (h : w.Evolves w') (h' : w'.Evolves w'') : w.Evolves w'' where
  now := h.now.trans h'.now
  minted := h.minted.trans h'.minted
  sessions row'' hrow'' := by
    obtain ⟨row', hrow', _, rfl⟩ := h'.sessions row'' hrow''
    obtain ⟨row, hrow, _, rfl⟩ := h.sessions row' hrow'
    exact ⟨row, hrow, _, rfl⟩
  redis k := (h'.redis k).elim (fun hk => hk ▸ h.redis k) .inr

end World.Evolves

/-- The clock moves. -/
def World.Later (w w' : World) : Prop := ∃ t, w.now ≤ t ∧ w' = { w with now := t }

/-- The clock may stand still. -/
theorem World.Later.refl (w : World) : w.Later w := ⟨w.now, le_rfl, rfl⟩

/-- Only time passes. -/
theorem World.Later.evolves {w w' : World} (h : w.Later w') : w.Evolves w' := by
  obtain ⟨t, ht, rfl⟩ := h
  exact { World.Evolves.refl w with now := ht }

/-- **A quiet request** adds nothing, whatever fails. -/
theorem Req.Quiet.evolves {q : Req} (hq : q.Quiet) {F : Req → Prop} {w w' : World} {a : Ans q}
    (h : Env F q w a w') : w.Evolves w' := by
  have hrefl := World.Evolves.refl w
  cases q with
  | clock => obtain ⟨-, rfl⟩ := h; exact hrefl
  | uuid => obtain rfl := h; exact { hrefl with minted := List.suffix_cons _ _ }
  | secureToken => obtain rfl := h; exact hrefl
  | query q => obtain ⟨rfl, -⟩ := h; exact hrefl
  | update u =>
    rcases h with ⟨r, db, hx, -, rfl⟩ | ⟨e, -, -, rfl⟩ | ⟨-, -, rfl⟩
    · exact { hrefl with sessions := Update.Quiet.rows hq hx }
    · exact hrefl
    · exact hrefl
  | transaction t => exact hq.elim
  | redis c =>
    have hgone : ∀ k, c.effect w.now w.redis k = w.redis k ∨ c.effect w.now w.redis k = none := by
      intro k
      cases c with
      | get token => exact .inl rfl
      | setex token ttl session => exact hq.elim
      | del tokens =>
        by_cases hk : k ∈ tokens
        · exact .inr (if_pos hk)
        · exact .inl (if_neg hk)
    rcases h with ⟨-, rfl⟩ | ⟨-, -, redis, rfl, hredis⟩
    · exact { hrefl with redis := hgone }
    · have hkeys : ∀ k, redis k = w.redis k ∨ redis k = none := by
        intro k
        rcases hredis k with hk | hk
        · exact .inl hk
        · rw [hk]; exact hgone k
      exact { hrefl with redis := hkeys }
  | verifyPassword p s => obtain rfl := h; exact hrefl
  | hashPassword p => obtain rfl := h; exact hrefl
  | sendVerification e t b => obtain rfl := h; exact hrefl
  | sendPasswordReset e t b => obtain rfl := h; exact hrefl

/-- No request forgets a UUID. -/
theorem Env.minted {F : Req → Prop} {q : Req} {w w' : World} {a : Ans q} (h : Env F q w a w') :
    w.minted <:+ w'.minted := by
  cases q with
  | uuid => obtain rfl := h; exact List.suffix_cons _ _
  | clock => obtain ⟨-, rfl⟩ := h; exact List.suffix_rfl
  | query q => obtain ⟨rfl, -⟩ := h; exact List.suffix_rfl
  | update u =>
    obtain ⟨_, _, -, -, rfl⟩ | ⟨_, -, -, rfl⟩ | ⟨-, -, rfl⟩ := h <;> exact List.suffix_rfl
  | transaction t =>
    obtain ⟨_, _, -, -, rfl⟩ | ⟨_, -, -, rfl⟩ | ⟨-, -, rfl⟩ := h <;> exact List.suffix_rfl
  | redis c => obtain ⟨-, rfl⟩ | ⟨-, -, _, rfl, -⟩ := h <;> exact List.suffix_rfl
  | secureToken => obtain rfl := h; exact List.suffix_rfl
  | verifyPassword p s => obtain rfl := h; exact List.suffix_rfl
  | hashPassword p => obtain rfl := h; exact List.suffix_rfl
  | sendVerification e t b => obtain rfl := h; exact List.suffix_rfl
  | sendPasswordReset e t b => obtain rfl := h; exact List.suffix_rfl

/-! ## The requests of the stores -/

section All

variable {φ : Req → Prop}

/-- A single query. -/
theorem all_select {q : Query} (h : φ (.query q)) : (select q).All φ := ⟨h, fun _ => trivial⟩

/-- A single statement. -/
theorem all_execute {u : Update} (h : φ (.update u)) : (execute u).All φ := ⟨h, fun _ => trivial⟩

/-- A single command. -/
theorem all_command {c : Command} (h : φ (.redis c)) : (command c).All φ := ⟨h, fun _ => trivial⟩

namespace CachedSessionStore

/-- Reading the cache issues `GET` and reads the clock. -/
theorem all_readCache (connected : Bool) (token : SessionToken) (hget : φ (.redis (.get token)))
    (hclock : φ .clock) : (readCache connected token).All φ := by
  refine (Prog.all_rejectIf _ _).bind fun _ => (all_command hget).mapErr.bind fun found => ?_
  cases found with
  | none => exact Prog.all_pure _
  | some session =>
    refine Prog.All.bind ⟨hclock, fun _ => trivial⟩ fun t => ?_
    split <;> exact Prog.all_pure _

/-- Writing the cache issues `SETEX`. -/
theorem all_writeCache (connected : Bool) (token : SessionToken) (session : Session)
    (hsetex : φ (.redis (.setex token sessionTtlSeconds session))) :
    (writeCache connected token session).All φ :=
  (Prog.all_rejectIf _ _).bind fun _ => (all_command hsetex).mapErr

/-- Invalidating a token issues `DEL`. -/
theorem all_invalidateCache (connected : Bool) (token : SessionToken)
    (hdel : φ (.redis (.del [token]))) : (invalidateCache connected token).All φ :=
  (Prog.all_rejectIf _ _).bind fun _ => (all_command hdel).mapErr

/-- Invalidating the tokens of a user reads them and issues `DEL`. -/
theorem all_invalidateActiveTokens (connected : Bool) (u : UserId)
    (hquery : φ (.query (.activeTokens u))) (hdel : ∀ tokens, φ (.redis (.del tokens))) :
    (invalidateActiveTokens connected u).All φ := by
  refine Prog.All.bind (all_select hquery).mapErr.attempt fun found => ?_
  cases found with
  | error e => exact Prog.all_pure _
  | ok tokens =>
    dsimp only
    split
    · exact Prog.all_pure _
    · exact (all_command (hdel _)).attempt.bind fun _ => Prog.all_pure _

end CachedSessionStore

end All

end Klynt
