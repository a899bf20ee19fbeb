import Klynt.Lib.Wp
import Klynt.System.CacheCoherence

set_option relaxedAutoImplicit false
set_option autoImplicit false

/-!
# A lookup racing with an invalidation

A lookup that misses the cache reads the session from the database and then writes it to the
cache.  A revocation or a change of snapshots writes the database and then drops the cache
entry.  If the lookup reads before the write and fills the cache after the `DEL`, the cache
holds a session the database no longer has.  This is the only way to get there.

## Main definitions

* `RaceInit` — a lookup and an invalidating operation, about to start.
* `StaleFill` — the interleavings described above.

## Main results

* `stale_fill_iff` — after both calls the lookups agree unless the fill was stale.
* `stale_fill_revoke` — an interleaving in which a revoked token is accepted again.
-/

namespace Klynt

/-! ## The two parties -/

/-- Who issues a request. -/
inductive Party where
  /-- The lookup. -/
  | reader
  /-- The invalidating operation. -/
  | writer
  deriving DecidableEq

/-- The operations that change a session and then invalidate it. -/
def StoreOp.Invalidates : StoreOp → Prop
  | revoke _ | revokeById _ _ | updateMemberships _ _ | addMembership _ _
  | updateMembershipForUser _ _ | removeMembership _ _ => True
  | _ => False

/-- The lookup found a row. -/
def readEvent (t : SessionToken) (row : SessionRow) : Prog.Event Req Ans :=
  ⟨.query (.activeSession t), (.ok (some row) : Except SqlxError (Option SessionRow))⟩

/-- What the lookup may request, given what it has seen. -/
inductive ReaderMay (t : SessionToken) (h : List (Prog.Event Req Ans)) : Req → Prop
  /-- Read the cache. -/
  | get : ReaderMay t h (.redis (.get t))
  /-- Read the clock. -/
  | clock : ReaderMay t h .clock
  /-- Read the database, once. -/
  | select (hfirst : ∀ e ∈ h, e.1 ≠ .query (.activeSession t)) :
      ReaderMay t h (.query (.activeSession t))
  /-- Cache the session that was read, once. -/
  | setex {row : SessionRow} {session : Session} (hread : readEvent t row ∈ h)
      (hsession : row.toSession = .ok session)
      (hfirst : ∀ e ∈ h, ∀ ttl s, e.1 ≠ .redis (.setex t ttl s)) :
      ReaderMay t h (.redis (.setex t sessionTtlSeconds session))

/-- What an invalidating operation may request, given what it has seen. -/
inductive WriterMay (h : List (Prog.Event Req Ans)) : Req → Prop
  /-- Read the database. -/
  | query {q : Query} : WriterMay h (.query q)
  /-- Change the sessions, once. -/
  | write {u : Update} (hquiet : u.Quiet) (hfirst : ∀ e ∈ h, ∀ u', e.1 ≠ .update u') :
      WriterMay h (.update u)
  /-- Drop cache entries, once. -/
  | del {tokens : List SessionToken} (hfirst : ∀ e ∈ h, ∀ tokens', e.1 ≠ .redis (.del tokens')) :
      WriterMay h (.redis (.del tokens))

/-- The invalidation that follows a change: of the token, or of the active tokens of the
user if there are any. -/
def Update.Followed (h : List (Prog.Event Req Ans)) : Update → Prop
  | deleteSession x | setMemberships x _ => ∃ e ∈ h, e.1 = .redis (.del [x])
  | addSnapshot u _ | updateSnapshot u _ | removeSnapshot u _ =>
    ∃ a : Except SqlxError (List SessionToken),
      (⟨.query (.activeTokens u), a⟩ : Prog.Event Req Ans) ∈ h ∧
        ∀ tokens, a = .ok tokens → tokens = [] ∨ ∃ e ∈ h, e.1 = .redis (.del tokens)
  | _ => False

/-- An operation that has finished has invalidated what it changed. -/
def Invalidated (h : List (Prog.Event Req Ans)) : Prop :=
  ∀ (u : Update) (a : u.Res), (⟨.update u, (.ok a : Except SqlxError u.Res)⟩ : Prog.Event Req Ans) ∈ h →
    u.Followed h

/-! ## What the parties request -/

section Traced

variable {t : SessionToken}

/-- The requests of a lookup. -/
theorem traced_findValid :
    ((StoreOp.findValid t).run (CachedSessionStore.store true)).Traced (ReaderMay t)
      (fun _ _ => True) [] := by
  have hdatabase : ∀ h : List (Prog.Event Req Ans),
      (∀ e ∈ h, e.1 ≠ .query (.activeSession t) ∧ ∀ ttl s, e.1 ≠ .redis (.setex t ttl s)) →
      (PgSessionStore.findValid t >>= CachedSessionStore.fillCache true t).Traced (ReaderMay t)
        (fun _ _ => True) h := by
    intro h hh
    refine Prog.wp_bind.mpr (Prog.wp_bind.mpr (Prog.wp_mapErr.mpr
      (Prog.wp_ask.mpr ⟨.select fun e he => (hh e he).1, ?_⟩)))
    rintro a _ rfl
    refine Prog.wp_done.mpr ?_
    match a with
    | .error e => trivial
    | .ok none => exact Prog.wp_pure.mpr (Prog.wp_pure.mpr trivial)
    | .ok (some row) =>
      refine Prog.wp_done.mpr ?_
      cases hsession : row.toSession with
      | error e => trivial
      | ok session =>
        dsimp only [Except.map, CachedSessionStore.fillCache]
        split
        · refine Prog.wp_bind.mpr (Prog.wp_attempt.mpr (Prog.wp_bind.mpr (Prog.wp_rejectIf.mpr
            ⟨fun _ => ?_, fun _ => Prog.wp_pure.mpr trivial⟩)))
          refine Prog.wp_mapErr.mpr (Prog.wp_ask.mpr ⟨.setex List.mem_cons_self hsession ?_, ?_⟩)
          · intro e he ttl s
            rcases List.mem_cons.mp he with rfl | he
            · nofun
            · exact (hh e he).2 ttl s
          · rintro a _ rfl
            exact Prog.wp_done.mpr (Prog.wp_pure.mpr trivial)
        · exact Prog.wp_pure.mpr trivial
  refine Prog.wp_forget.mpr (Prog.wp_bind.mpr (Prog.wp_attempt.mpr (Prog.wp_bind.mpr
    (Prog.wp_rejectIf.mpr ⟨fun _ => ?_, fun hf => by cases hf⟩))))
  refine Prog.wp_bind.mpr (Prog.wp_mapErr.mpr (Prog.wp_ask.mpr ⟨.get, ?_⟩))
  rintro a _ rfl
  have hget : ∀ e ∈ [(⟨.redis (.get t), a⟩ : Prog.Event Req Ans)],
      e.1 ≠ .query (.activeSession t) ∧ ∀ ttl s, e.1 ≠ .redis (.setex t ttl s) := by
    intro e he
    obtain rfl := List.mem_singleton.mp he
    exact ⟨nofun, fun _ _ => nofun⟩
  refine Prog.wp_done.mpr ?_
  match a with
  | .error e => exact hdatabase _ hget
  | .ok none => exact Prog.wp_pure.mpr (hdatabase _ hget)
  | .ok (some session) =>
    refine Prog.wp_bind.mpr (Prog.wp_ask.mpr ⟨.clock, ?_⟩)
    rintro now _ rfl
    refine Prog.wp_done.mpr ?_
    dsimp only
    split
    · refine Prog.wp_pure.mpr (hdatabase _ fun e he => ?_)
      rcases List.mem_cons.mp he with rfl | he
      · exact ⟨nofun, fun _ _ => nofun⟩
      · exact hget e he
    · exact Prog.wp_pure.mpr (Prog.wp_pure.mpr trivial)

/-- A change that is the first request: what was seen then. -/
theorem traced_execute {ε : Type} {u : Update} {f : SqlxError → ε} (hquiet : u.Quiet)
    {h : List (Prog.Event Req Ans)} (hfirst : ∀ e ∈ h, ∀ u', e.1 ≠ .update u') :
    ((execute u).mapErr f).Traced WriterMay
      (fun r h' => ∃ a : Except SqlxError u.Res, h' = ⟨.update u, a⟩ :: h ∧ r = a.mapError f) h := by
  refine Prog.wp_mapErr.mpr (Prog.wp_ask.mpr ⟨.write hquiet hfirst, ?_⟩)
  rintro a _ rfl
  exact Prog.wp_done.mpr ⟨a, rfl, rfl⟩

/-- An operation that failed to change anything has nothing to invalidate. -/
theorem invalidated_of_error {u : Update} {e : SqlxError} {h : List (Prog.Event Req Ans)}
    (hfirst : ∀ e ∈ h, ∀ u', e.1 ≠ .update u') :
    Invalidated (⟨.update u, (.error e : Except SqlxError u.Res)⟩ :: h) := by
  intro u' a hmem
  rcases List.mem_cons.mp hmem with heq | hmem
  · cases heq
  · exact absurd rfl (hfirst _ hmem u')

/-- An operation has only to invalidate its one change. -/
theorem invalidated_of_followed {u : Update} {a : u.Res} {h h' : List (Prog.Event Req Ans)}
    (hfirst : ∀ e ∈ h, ∀ u', e.1 ≠ .update u')
    (hh' : ∀ e ∈ h', ∀ u', e.1 = .update u' →
      e ∈ (⟨.update u, (.ok a : Except SqlxError u.Res)⟩ : Prog.Event Req Ans) :: h)
    (hu : u.Followed h') : Invalidated h' := by
  intro u' a' hmem
  rcases List.mem_cons.mp (hh' _ hmem u' rfl) with heq | hmem
  · cases heq; exact hu
  · exact absurd rfl (hfirst _ hmem u')

/-- A change of one session, followed by the `DEL` of its token. -/
theorem traced_invalidateCache {u : Update} {x : SessionToken} {a : u.Res}
    {h : List (Prog.Event Req Ans)} (hfirst : ∀ e ∈ h, ∃ q, e.1 = .query q)
    (hu : ∀ h', (∃ e ∈ h', e.1 = .redis (.del [x])) → u.Followed h') :
    (do
      let _ ← (CachedSessionStore.invalidateCache true x).attempt
      return () : Action SessionError Unit).Traced WriterMay (fun _ h' => Invalidated h')
        (⟨.update u, (.ok a : Except SqlxError u.Res)⟩ :: h) := by
  have hwrite : ∀ e ∈ h, ∀ u', e.1 ≠ .update u' := by
    intro e he u' heq
    obtain ⟨q, hq⟩ := hfirst e he
    rw [hq] at heq; cases heq
  refine Prog.wp_bind.mpr (Prog.wp_attempt.mpr (Prog.wp_bind.mpr (Prog.wp_rejectIf.mpr
    ⟨fun _ => ?_, fun hf => by cases hf⟩)))
  refine Prog.wp_mapErr.mpr (Prog.wp_ask.mpr ⟨.del ?_, ?_⟩)
  · intro e he tokens' heq
    rcases List.mem_cons.mp he with rfl | he
    · cases heq
    · obtain ⟨q, hq⟩ := hfirst e he
      rw [hq] at heq; cases heq
  · rintro b _ rfl
    refine Prog.wp_done.mpr (Prog.wp_pure.mpr ?_)
    refine invalidated_of_followed (h := h) (a := a) hwrite ?_ ?_
    · intro e he u' heq
      rcases List.mem_cons.mp he with rfl | he
      · cases heq
      · exact he
    · exact hu _ ⟨_, List.mem_cons_self, rfl⟩

/-- A change of a user's sessions, followed by the `DEL` of the user's active tokens. -/
theorem traced_invalidateActiveTokens {u : Update} {v : UserId} {a : u.Res}
    (hu : ∀ h', (∃ b : Except SqlxError (List SessionToken),
      (⟨.query (.activeTokens v), b⟩ : Prog.Event Req Ans) ∈ h' ∧
        ∀ tokens, b = .ok tokens → tokens = [] ∨ ∃ e ∈ h', e.1 = .redis (.del tokens)) →
      u.Followed h') :
    (CachedSessionStore.invalidateActiveTokens true v).Traced WriterMay (fun _ h' => Invalidated h')
        [⟨.update u, (.ok a : Except SqlxError u.Res)⟩] := by
  have hnone : ∀ e ∈ ([] : List (Prog.Event Req Ans)), ∀ u', e.1 ≠ .update u' :=
    fun _ he => absurd he List.not_mem_nil
  refine Prog.wp_bind.mpr (Prog.wp_attempt.mpr (Prog.wp_mapErr.mpr
    (Prog.wp_ask.mpr ⟨.query, ?_⟩)))
  rintro b _ rfl
  have hseen : ∀ e ∈ [(⟨.query (.activeTokens v), b⟩ : Prog.Event Req Ans),
      ⟨.update u, (.ok a : Except SqlxError u.Res)⟩], ∀ u', e.1 = .update u' →
      e ∈ [(⟨.update u, (.ok a : Except SqlxError u.Res)⟩ : Prog.Event Req Ans)] := by
    intro e he u' heq
    rcases List.mem_cons.mp he with rfl | he
    · cases heq
    · exact he
  refine Prog.wp_done.mpr ?_
  match b with
  | .error m =>
    refine Prog.wp_pure.mpr (invalidated_of_followed (a := a) hnone hseen (hu _ ?_))
    exact ⟨.error m, List.mem_cons_self, fun _ hb => by cases hb⟩
  | .ok tokens =>
    dsimp only [Except.mapError]
    split
    · rename_i hempty
      refine Prog.wp_pure.mpr (invalidated_of_followed (a := a) hnone hseen (hu _ ?_))
      refine ⟨.ok tokens, List.mem_cons_self, fun tokens' hb => .inl ?_⟩
      obtain rfl := Except.ok.inj hb
      exact hempty.resolve_right nofun
    · refine Prog.wp_bind.mpr (Prog.wp_attempt.mpr (Prog.wp_ask.mpr ⟨.del ?_, ?_⟩))
      · intro e he tokens' heq
        rcases List.mem_cons.mp he with rfl | he
        · cases heq
        · obtain rfl := List.mem_singleton.mp he
          cases heq
      · rintro c _ rfl
        refine Prog.wp_done.mpr (Prog.wp_pure.mpr ?_)
        refine invalidated_of_followed (h := []) (a := a) hnone ?_ (hu _ ?_)
        · intro e he u' heq
          rcases List.mem_cons.mp he with rfl | he
          · cases heq
          · exact hseen e he u' heq
        · refine ⟨.ok tokens, List.mem_cons_of_mem _ List.mem_cons_self, fun tokens' hb => .inr ?_⟩
          obtain rfl := Except.ok.inj hb
          exact ⟨_, List.mem_cons_self, rfl⟩

/-- **The requests of an invalidating operation.** -/
theorem traced_invalidates {op : StoreOp} (hop : op.Invalidates) :
    (op.run (CachedSessionStore.store true)).Traced WriterMay (fun _ h => Invalidated h) [] := by
  have hnone : ∀ e ∈ ([] : List (Prog.Event Req Ans)), ∀ u', e.1 ≠ .update u' :=
    fun _ he => absurd he List.not_mem_nil
  have hrevoke : ∀ (x : SessionToken) (h : List (Prog.Event Req Ans)),
      (∀ e ∈ h, ∃ q, e.1 = .query q) →
      (CachedSessionStore.revoke true x).Traced WriterMay (fun _ h' => Invalidated h') h := by
    intro x h hh
    have hwrite : ∀ e ∈ h, ∀ u', e.1 ≠ .update u' := by
      intro e he u' heq
      obtain ⟨q, hq⟩ := hh e he
      rw [hq] at heq; cases heq
    refine Prog.wp_bind.mpr ((traced_execute (u := .deleteSession x) trivial hwrite).mono ?_)
    rintro r _ ⟨a, rfl, rfl⟩
    match a with
    | .error e => exact invalidated_of_error hwrite
    | .ok a => exact traced_invalidateCache hh fun _ hdel => hdel
  have hedit : ∀ (u : Update) (v : UserId) (k : u.Res → Unit), u.Quiet →
    (∀ h', (∃ b : Except SqlxError (List SessionToken),
      (⟨.query (.activeTokens v), b⟩ : Prog.Event Req Ans) ∈ h' ∧
        ∀ tokens, b = .ok tokens → tokens = [] ∨ ∃ e ∈ h', e.1 = .redis (.del tokens)) →
      u.Followed h') →
      ((execute u).mapErr SessionError.ofSqlx >>= fun _ =>
        CachedSessionStore.invalidateActiveTokens true v).Traced WriterMay
          (fun _ h' => Invalidated h') [] := by
    intro u v k hquiet hu
    refine Prog.wp_bind.mpr ((traced_execute hquiet hnone).mono ?_)
    rintro r _ ⟨a, rfl, rfl⟩
    match a with
    | .error e => exact invalidated_of_error hnone
    | .ok a => exact traced_invalidateActiveTokens hu
  cases op with
  | revoke x => exact Prog.wp_forget.mpr (hrevoke x [] fun _ he => absurd he List.not_mem_nil)
  | revokeById u id =>
    refine Prog.wp_forget.mpr (Prog.wp_bind.mpr (Prog.wp_bind.mpr (Prog.wp_mapErr.mpr
      (Prog.wp_ask.mpr ⟨.query, ?_⟩))))
    rintro b _ rfl
    refine Prog.wp_done.mpr ?_
    match b with
    | .error e => exact fun _ _ hmem => by cases List.mem_singleton.mp hmem
    | .ok found =>
      refine Prog.wp_ofOption.mpr ⟨fun x _ => hrevoke x _ ?_, fun _ _ _ hmem => by
        cases List.mem_singleton.mp hmem⟩
      intro e he
      obtain rfl := List.mem_singleton.mp he
      exact ⟨_, rfl⟩
  | updateMemberships x l =>
    refine Prog.wp_forget.mpr (Prog.wp_bind.mpr
      ((traced_execute (u := .setMemberships x l) trivial hnone).mono ?_))
    rintro r _ ⟨a, rfl, rfl⟩
    match a with
    | .error e => exact invalidated_of_error hnone
    | .ok a => exact traced_invalidateCache (fun _ he => absurd he List.not_mem_nil) fun _ hdel => hdel
  | addMembership u s =>
    exact Prog.wp_forget.mpr (hedit (.addSnapshot u s) u id trivial fun _ h => h)
  | updateMembershipForUser u s =>
    exact Prog.wp_forget.mpr (hedit (.updateSnapshot u s) u id trivial fun _ h => h)
  | removeMembership u t =>
    exact Prog.wp_forget.mpr (hedit (.removeSnapshot u t) u id trivial fun _ h => h)
  | _ => exact hop.elim

end Traced

/-! ## What a change does to the rows of a token -/

/-- The rows of a token are the same. -/
def SameRows (t : SessionToken) (db db' : Db) : Prop :=
  ∀ row : SessionRow, row.token = t → (row ∈ db'.sessions ↔ row ∈ db.sessions)

/-- A change affects the rows of a token only if it is the token that is changed, or a token of
the user that is changed. -/
def Update.Affects (t : SessionToken) (db db' : Db) : Update → Prop
  | deleteSession x | setMemberships x _ => x ≠ t → SameRows t db db'
  | addSnapshot u _ | updateSnapshot u _ | removeSnapshot u _ =>
    SameRows t db db' ∨ ∃ row ∈ db'.sessions, row.token = t ∧ row.userId = u
  | _ => True

section Affects

variable {t : SessionToken} {db db' : Db} {now : Time}

/-- Editing the snapshots of a user's sessions affects tokens of the user only. -/
theorem affects_editSessionMemberships {edit : Json → Except String Json} {u : UserId}
    (h : editSessionMemberships edit u now db = .ok ((), db')) :
    SameRows t db db' ∨ ∃ row ∈ db'.sessions, row.token = t ∧ row.userId = u := by
  obtain ⟨sessions, rfl, hedited⟩ := editSessionMemberships_ok h
  by_cases hex : ∃ row ∈ db.sessions, row.token = t ∧ row.userId = u
  · obtain ⟨row, hrow, htoken, huser⟩ := hex
    obtain ⟨_, hrow', column, rfl, -⟩ := hedited.exists_right hrow
    exact .inr ⟨_, hrow', htoken, huser⟩
  · have hsame : ∀ row row', row.token = t → row ∈ db.sessions →
        SessionRow.Edited edit u now row row' → row' = row := by
      rintro row _ htoken hrow ⟨column, rfl, hcolumn⟩
      rw [if_neg fun hactive => hex ⟨row, hrow, htoken, hactive.1⟩] at hcolumn
      rw [hcolumn]
    refine .inl fun row htoken => ⟨fun hrow => ?_, fun hrow => ?_⟩
    · obtain ⟨row₀, hrow₀, hedit⟩ := hedited.exists_left hrow
      have htoken₀ : row₀.token = t := by
        obtain ⟨_, rfl, -⟩ := hedit
        exact htoken
      rw [hsame row₀ row htoken₀ hrow₀ hedit]
      exact hrow₀
    · obtain ⟨row', hrow', hedit⟩ := hedited.exists_right hrow
      rw [← hsame row row' htoken hrow hedit]
      exact hrow'

/-- **What a change affects.** -/
theorem Update.Quiet.affects {u : Update} (hu : u.Quiet) {r : u.Res}
    (h : u.exec now db = .ok (r, db')) : u.Affects t db db' := by
  cases u with
  | deleteSession x =>
    obtain ⟨-, rfl⟩ := Prod.mk.inj (Except.ok.inj h)
    intro hx row htoken
    have hkept : (row.token ≠ x) = True := eq_true fun heq => hx (heq.symm.trans htoken)
    simp [List.mem_filter, hkept]
  | setMemberships x l =>
    obtain ⟨-, rfl⟩ := Prod.mk.inj (Except.ok.inj h)
    intro hx row htoken
    refine ⟨fun hrow => ?_, fun hrow => ?_⟩
    · obtain ⟨row₀, hrow₀, rfl⟩ := List.mem_map.mp hrow
      by_cases hx₀ : row₀.token = x
      · rw [if_pos hx₀] at htoken
        exact absurd (hx₀.symm.trans htoken) hx
      · rw [if_neg hx₀]
        exact hrow₀
    · exact List.mem_map.mpr ⟨row, hrow, if_neg fun heq => hx (heq.symm.trans htoken)⟩
  | addSnapshot u s => exact affects_editSessionMemberships h
  | updateSnapshot u s => exact affects_editSessionMemberships h
  | removeSnapshot u s => exact affects_editSessionMemberships h
  | _ => trivial

end Affects

/-- What a party may request. -/
def MayRequest (t : SessionToken) : Party → List (Prog.Event Req Ans) → Req → Prop
  | .reader => ReaderMay t
  | .writer => WriterMay

/-- What holds when a party has finished. -/
def Finished : Party → List (Prog.Event Req Ans) → Prop
  | .reader, _ => True
  | .writer, h => Invalidated h

/-! ## Interleavings -/

/-- The two parties over one world. -/
abbrev StorePool : Type := Pool Party Req Ans Unit Unit World

/-- A lookup of `t` and an operation, about to start. -/
structure RaceInit (t : SessionToken) (op : StoreOp) (w₀ : World) (P : StorePool) : Prop where
  /-- The lookup. -/
  reader : P.threads .reader = (StoreOp.findValid t).run (CachedSessionStore.store true)
  /-- The operation. -/
  writer : P.threads .writer = op.run (CachedSessionStore.store true)
  /-- The world. -/
  world : P.world = w₀

/-- An event of a party. -/
abbrev PartyEvent : Type := Party × Prog.Event Req Ans

/-- The history of an interleaving. -/
abbrev RaceHistory : Type := List (StorePool × Pool.Label Party Req Ans)

/-- The lookup reads the database. -/
def IsSelect (t : SessionToken) (x : PartyEvent) : Prop :=
  x.1 = .reader ∧ x.2.1 = .query (.activeSession t)

/-- The operation writes the database. -/
def IsWrite (x : PartyEvent) : Prop := x.1 = .writer ∧ ∃ u, x.2.1 = .update u

/-- The operation drops the cache entry of the token. -/
def IsDel (t : SessionToken) (x : PartyEvent) : Prop :=
  x.1 = .writer ∧ ∃ tokens, t ∈ tokens ∧ x.2.1 = .redis (.del tokens)

/-- The lookup writes the cache entry of the token. -/
def IsSetex (t : SessionToken) (x : PartyEvent) : Prop :=
  x.1 = .reader ∧ ∃ ttl s, x.2.1 = .redis (.setex t ttl s)

/-- **The stale fill**: the lookup reads before the write and fills the cache after the `DEL`,
its entry is still alive, and the write has changed what the database returns. -/
structure StaleFill (t : SessionToken) (w₀ : World) (tr : RaceHistory) (w : World) : Prop where
  /-- The lookup reads before the write. -/
  early : Precedes (IsSelect t) IsWrite (Pool.log tr)
  /-- The lookup fills the cache after the `DEL`. -/
  late : Precedes (IsDel t) (IsSetex t) (Pool.log tr)
  /-- The entry is still alive. -/
  live : ∃ P x, (P, some x) ∈ tr ∧ IsSetex t x ∧
    w.now ≤ P.world.now + seconds sessionTtlSeconds
  /-- The database returned something else before. -/
  changed : World.lookup { w₀ with now := w.now } t ≠ w.lookup t

/-- What is known of the database in an interleaving. -/
structure DbInv (t : SessionToken) (w₀ : World) (L : List PartyEvent) (w : World) : Prop where
  /-- Time does not run backwards. -/
  now : w₀.now ≤ w.now
  /-- Tokens are distinct. -/
  tokens : (w.db.sessions.map (·.token)).Nodup
  /-- Rows differ from the first ones in their snapshots at most. -/
  rows : ∀ row ∈ w.db.sessions, ∃ row₀ ∈ w₀.db.sessions,
    ∃ column, row = { row₀ with tenantMemberships := column }
  /-- Until a change succeeds, the rows are the first ones. -/
  same : (∀ (u : Update) (a : u.Res),
    (Party.writer, ⟨.update u, (.ok a : Except SqlxError u.Res)⟩) ∉ L) → SameRows t w₀.db w.db
  /-- A change that succeeded affects what it says. -/
  affected : ∀ (u : Update) (a : u.Res),
    (Party.writer, ⟨.update u, (.ok a : Except SqlxError u.Res)⟩) ∈ L → u.Affects t w₀.db w.db
  /-- The active tokens of a user were found; a token of the user that was not is expired. -/
  found : ∀ (u : UserId) (a : Except SqlxError (List SessionToken)),
    (Party.writer, ⟨.query (.activeTokens u), a⟩) ∈ L → ∃ tokens, a = .ok tokens ∧
      ∀ row ∈ w.db.sessions, row.token = t → row.userId = u → t ∈ tokens ∨ row.expiresAt ≤ w.now
  /-- The row that was read is the first one, if it was read before the write, or the
  present one. -/
  read : ∀ row, (Party.reader, readEvent t row) ∈ L → row.token = t ∧
    ((row ∈ w₀.db.sessions ∧ ((∃ x ∈ L, IsWrite x) → Precedes (IsSelect t) IsWrite L)) ∨
      (row ∈ w.db.sessions ∧ (∃ x ∈ L, IsWrite x) ∧ ¬ Precedes (IsSelect t) IsWrite L))

/-- What is known of the cache entry in an interleaving. -/
structure EntryInv (t : SessionToken) (w₀ : World) (tr : RaceHistory) (w : World) : Prop where
  /-- What is cached was read. -/
  copied : ∀ ttl s (a : Except String Unit),
    (Party.reader, ⟨.redis (.setex t ttl s), a⟩) ∈ Pool.log tr → ttl = sessionTtlSeconds ∧
      ∃ row, (Party.reader, readEvent t row) ∈ Pool.log tr ∧ row.toSession = .ok s
  /-- The entry is the first one, or that of the fill; a `DEL` was then before the fill. -/
  entry : ∀ e, w.redis t = some e →
    (w₀.redis t = some e ∧ (∀ x ∈ Pool.log tr, ¬ IsDel t x)) ∨
      ∃ P x s, (P, some x) ∈ tr ∧ x.1 = Party.reader ∧
        x.2.1 = .redis (.setex t sessionTtlSeconds s) ∧
        e = ⟨s, P.world.now + seconds sessionTtlSeconds⟩ ∧
        ((∃ x ∈ Pool.log tr, IsDel t x) → Precedes (IsDel t) (IsSetex t) (Pool.log tr))
  /-- After a `DEL` and a fill, the entry is that of the fill. -/
  filled : ∀ P x s, (P, some x) ∈ tr → x.1 = Party.reader →
    x.2.1 = .redis (.setex t sessionTtlSeconds s) →
    Precedes (IsDel t) (IsSetex t) (Pool.log tr) →
    w.redis t = some ⟨s, P.world.now + seconds sessionTtlSeconds⟩

section Inv

variable {t : SessionToken} {w₀ w w' : World} {L : List PartyEvent} {tr : RaceHistory}

/-- An event that changes neither the sessions nor what is known of them. -/
theorem DbInv.neutral (hi : DbInv t w₀ L w) {x : PartyEvent} (hnow : w.now ≤ w'.now)
    (hsessions : w'.db.sessions = w.db.sessions) (hselect : ¬ IsSelect t x) (hwrite : ¬ IsWrite x)
    (htokens : ∀ u, ¬ (x.1 = .writer ∧ x.2.1 = .query (.activeTokens u))) :
    DbInv t w₀ (x :: L) w' where
  now := hi.now.trans hnow
  tokens := hsessions ▸ hi.tokens
  rows := hsessions ▸ hi.rows
  same hnone := by
    have hsame := hi.same fun u a hmem => hnone u a (List.mem_cons_of_mem _ hmem)
    intro row htoken
    rw [hsessions]
    exact hsame row htoken
  affected u a hmem := by
    rcases List.mem_cons.mp hmem with rfl | hmem
    · exact absurd ⟨rfl, u, rfl⟩ hwrite
    · have haff := hi.affected u a hmem
      cases u <;> simp only [Update.Affects, SameRows, hsessions] at haff ⊢ <;> exact haff
  found u a hmem := by
    rcases List.mem_cons.mp hmem with rfl | hmem
    · exact absurd ⟨rfl, rfl⟩ (htokens u)
    · obtain ⟨tokens, ha, hrows⟩ := hi.found u a hmem
      refine ⟨tokens, ha, fun row hrow htoken huser => ?_⟩
      exact (hrows row (hsessions ▸ hrow) htoken huser).imp_right fun hle => hle.trans hnow
  read row hmem := by
    have hread : (Party.reader, readEvent t row) ∈ L := by
      rcases List.mem_cons.mp hmem with rfl | hmem
      · exact absurd ⟨rfl, rfl⟩ hselect
      · exact hmem
    obtain ⟨htoken, hrow⟩ := hi.read row hread
    have hex : (∃ y ∈ x :: L, IsWrite y) ↔ ∃ y ∈ L, IsWrite y := by
      simp [hwrite]
    rw [precedes_cons_of_not hwrite, hex, hsessions]
    exact ⟨htoken, hrow⟩

/-- The lookup reads the database. -/
theorem DbInv.select (hi : DbInv t w₀ L w) (hfirst : ∀ x ∈ L, ¬ IsSelect t x)
    {a : Except SqlxError (Option SessionRow)}
    (ha : a = .ok (w.db.sessions.find? fun s => s.token = t ∧ s.active w.now)) :
    DbInv t w₀ ((Party.reader, ⟨.query (.activeSession t), a⟩) :: L) w where
  now := hi.now
  tokens := hi.tokens
  rows := hi.rows
  same hnone := hi.same fun u a hmem => hnone u a (List.mem_cons_of_mem _ hmem)
  affected u a hmem := by
    rcases List.mem_cons.mp hmem with heq | hmem
    · cases heq
    · exact hi.affected u a hmem
  found u a hmem := by
    rcases List.mem_cons.mp hmem with heq | hmem
    · cases heq
    · exact hi.found u a hmem
  read row hmem := by
    have hnowrite : ¬ IsWrite (Party.reader, (⟨.query (.activeSession t), a⟩ : Prog.Event Req Ans)) :=
      fun h => by cases h.1
    have hex : (∃ y ∈ (Party.reader, (⟨.query (.activeSession t), a⟩ : Prog.Event Req Ans)) :: L,
        IsWrite y) ↔ ∃ y ∈ L, IsWrite y := by
      simp [hnowrite]
    rw [precedes_cons_of_not hnowrite, hex]
    rcases List.mem_cons.mp hmem with heq | hmem
    · obtain ⟨-, heq⟩ := Prod.mk.inj heq
      have hfind : w.db.sessions.find? (fun s => s.token = t ∧ s.active w.now) = some row := by
        have hval := eq_of_heq (Sigma.mk.inj heq).2
        exact Except.ok.inj (ha.symm.trans hval.symm)
      have hrow := List.mem_of_find?_eq_some hfind
      have hkey : row.token = t ∧ row.active w.now = true := by simpa using List.find?_some hfind
      refine ⟨hkey.1, ?_⟩
      have hno : ¬ Precedes (IsSelect t) IsWrite L := fun hp => by
        obtain ⟨y, hy, hselect⟩ := hp.exists_left
        exact hfirst y hy hselect
      by_cases hw : ∃ y ∈ L, IsWrite y
      · exact .inr ⟨hrow, hw, hno⟩
      · refine .inl ⟨?_, fun h => absurd h hw⟩
        exact (hi.same (fun u b hmem => hw ⟨_, hmem, rfl, u, rfl⟩) row hkey.1).mp hrow
    · exact absurd ⟨rfl, rfl⟩ (hfirst _ hmem)

/-- The operation looks the active tokens of a user up. -/
theorem DbInv.activeTokens (hi : DbInv t w₀ L w) {v : UserId}
    {a : Except SqlxError (List SessionToken)}
    (ha : a = .ok ((w.db.activeSessionsOf w.now v).map (·.token))) :
    DbInv t w₀ ((Party.writer, ⟨.query (.activeTokens v), a⟩) :: L) w where
  now := hi.now
  tokens := hi.tokens
  rows := hi.rows
  same hnone := hi.same fun u a hmem => hnone u a (List.mem_cons_of_mem _ hmem)
  affected u a hmem := by
    rcases List.mem_cons.mp hmem with heq | hmem
    · cases heq
    · exact hi.affected u a hmem
  found u b hmem := by
    rcases List.mem_cons.mp hmem with heq | hmem
    · cases heq
      refine ⟨_, ha, fun row hrow htoken huser => ?_⟩
      by_cases hactive : w.now < row.expiresAt
      · refine .inl (List.mem_map.mpr ⟨row, List.mem_filter.mpr ⟨hrow, ?_⟩, htoken⟩)
        simp [huser, SessionRow.active, hactive]
      · exact .inr (not_lt.mp hactive)
    · exact hi.found u b hmem
  read row hmem := by
    have hread : (Party.reader, readEvent t row) ∈ L := by
      rcases List.mem_cons.mp hmem with heq | hmem
      · cases heq
      · exact hmem
    obtain ⟨htoken, hrow⟩ := hi.read row hread
    have hnowrite : ¬ IsWrite (Party.writer, (⟨.query (.activeTokens v), a⟩ : Prog.Event Req Ans)) :=
      fun ⟨_, u, hu⟩ => by cases hu
    have hex : (∃ y ∈ (Party.writer, (⟨.query (.activeTokens v), a⟩ : Prog.Event Req Ans)) :: L,
        IsWrite y) ↔ ∃ y ∈ L, IsWrite y := by
      simp [hnowrite]
    rw [precedes_cons_of_not hnowrite, hex]
    exact ⟨htoken, hrow⟩

/-- The operation writes the database. -/
theorem DbInv.write (hi : DbInv t w₀ L w) {u : Update} (hquiet : u.Quiet)
    (hfirst : ∀ x ∈ L, ¬ IsWrite x) {a : Except SqlxError u.Res}
    (hE : Env noFault (.update u) w a w') : DbInv t w₀ ((Party.writer, ⟨.update u, a⟩) :: L) w' := by
  have hsame : SameRows t w₀.db w.db := hi.same fun u a hmem => hfirst _ hmem ⟨rfl, u, rfl⟩
  have hevolves := Req.Quiet.evolves (q := .update u) hquiet hE
  refine ⟨hi.now.trans hevolves.now, ?_, fun row hrow => ?_, fun hnone => ?_, fun u' b hmem => ?_,
    fun v b hmem => ?_, fun row hmem => ?_⟩
  · obtain ⟨r, db, hx, -, rfl⟩ | ⟨e, -, -, rfl⟩ | ⟨hfault, -⟩ := hE
    · exact hquiet.tokens hx hi.tokens
    · exact hi.tokens
    · exact hfault.elim
  · obtain ⟨row₁, hrow₁, _, rfl⟩ := hevolves.sessions row hrow
    obtain ⟨row₀, hrow₀, _, rfl⟩ := hi.rows row₁ hrow₁
    exact ⟨row₀, hrow₀, _, rfl⟩
  · obtain ⟨r, db, -, rfl, -⟩ | ⟨e, -, -, rfl⟩ | ⟨hfault, -⟩ := hE
    · exact absurd List.mem_cons_self (hnone u r)
    · exact hsame
    · exact hfault.elim
  · rcases List.mem_cons.mp hmem with heq | hmem
    · cases heq
      obtain ⟨r, db, hx, -, rfl⟩ | ⟨e, -, he, -⟩ | ⟨hfault, -⟩ := hE
      · have haff := hquiet.affects (t := t) hx
        have htrans : SameRows t w.db db → SameRows t w₀.db db :=
          fun h row htoken => (h row htoken).trans (hsame row htoken)
        cases u with
        | deleteSession x => exact fun hxt => htrans (haff hxt)
        | setMemberships x l => exact fun hxt => htrans (haff hxt)
        | addSnapshot v s => exact haff.imp_left htrans
        | updateSnapshot v s => exact haff.imp_left htrans
        | removeSnapshot v s => exact haff.imp_left htrans
        | _ => trivial
      · cases he
      · exact hfault.elim
    · exact absurd ⟨rfl, u', rfl⟩ (hfirst _ hmem)
  · rcases List.mem_cons.mp hmem with heq | hmem
    · cases heq
    · obtain ⟨tokens, ha, hrows⟩ := hi.found v b hmem
      refine ⟨tokens, ha, fun row hrow htoken huser => ?_⟩
      obtain ⟨row₁, hrow₁, _, rfl⟩ := hevolves.sessions row hrow
      exact (hrows row₁ hrow₁ htoken huser).imp_right fun hle => hle.trans hevolves.now
  · rcases List.mem_cons.mp hmem with heq | hmem
    · cases heq
    · obtain ⟨htoken, ⟨hrow, -⟩ | ⟨-, ⟨x, hx, hwrite⟩, -⟩⟩ := hi.read row hmem
      · exact ⟨htoken, .inl ⟨hrow, fun _ => .inl ⟨⟨rfl, u, rfl⟩, _, hmem, rfl, rfl⟩⟩⟩
      · exact absurd hwrite (hfirst x hx)

/-- Time passes. -/
theorem DbInv.tick (hi : DbInv t w₀ L w) (hT : w.Later w') : DbInv t w₀ L w' := by
  obtain ⟨n, hn, rfl⟩ := hT
  exact { hi with
    now := hi.now.trans hn
    found := fun u a hmem => by
      obtain ⟨tokens, ha, hrows⟩ := hi.found u a hmem
      exact ⟨tokens, ha, fun row hrow htoken huser =>
        (hrows row hrow htoken huser).imp_right fun hle => hle.trans hn⟩ }

/-- An event that does not touch the entry. -/
theorem EntryInv.neutral (hi : EntryInv t w₀ tr w) {P : StorePool} {x : PartyEvent}
    (hredis : w'.redis t = w.redis t) (hdel : ¬ IsDel t x) (hsetex : ¬ IsSetex t x) :
    EntryInv t w₀ ((P, some x) :: tr) w' := by
  have hex : (∃ y ∈ x :: Pool.log tr, IsDel t y) ↔ ∃ y ∈ Pool.log tr, IsDel t y := by simp [hdel]
  refine ⟨fun ttl s a hmem => ?_, fun e he => ?_, fun P' y s hmem hparty hy hprec => ?_⟩
  · rcases List.mem_cons.mp hmem with rfl | hmem
    · exact absurd ⟨rfl, ttl, s, rfl⟩ hsetex
    · obtain ⟨httl, row, hrow, hsession⟩ := hi.copied ttl s a hmem
      exact ⟨httl, row, List.mem_cons_of_mem _ hrow, hsession⟩
  · rw [hredis] at he
    rcases hi.entry e he with ⟨h₀, hnone⟩ | ⟨P', y, s, hmem, hparty, hy, hval, hlate⟩
    · refine .inl ⟨h₀, fun y hy => ?_⟩
      rcases List.mem_cons.mp hy with rfl | hy
      · exact hdel
      · exact hnone y hy
    · refine .inr ⟨P', y, s, List.mem_cons_of_mem _ hmem, hparty, hy, hval, ?_⟩
      rw [Pool.log_cons_some, hex]
      exact fun hd => .inr (hlate hd)
  · rw [hredis]
    rw [Pool.log_cons_some, precedes_cons_of_not hsetex] at hprec
    rcases List.mem_cons.mp hmem with heq | hmem
    · cases heq; exact absurd ⟨hparty, _, _, hy⟩ hsetex
    · exact hi.filled P' y s hmem hparty hy hprec

/-- The operation drops the entry. -/
theorem EntryInv.del (hi : EntryInv t w₀ tr w) {P : StorePool} {x : PartyEvent}
    (hredis : w'.redis t = none) (hfirst : ∀ y ∈ Pool.log tr, ¬ IsDel t y)
    (hsetex : ¬ IsSetex t x) : EntryInv t w₀ ((P, some x) :: tr) w' := by
  refine ⟨fun ttl s a hmem => ?_, fun e he => ?_, fun P' y s hmem hparty hy hprec => ?_⟩
  · rcases List.mem_cons.mp hmem with rfl | hmem
    · exact absurd ⟨rfl, ttl, s, rfl⟩ hsetex
    · obtain ⟨httl, row, hrow, hsession⟩ := hi.copied ttl s a hmem
      exact ⟨httl, row, List.mem_cons_of_mem _ hrow, hsession⟩
  · rw [hredis] at he; cases he
  · rw [Pool.log_cons_some, precedes_cons_of_not hsetex] at hprec
    obtain ⟨z, hz, hd⟩ := hprec.exists_left
    exact absurd hd (hfirst z hz)

/-- The lookup fills the entry. -/
theorem EntryInv.setex {P : StorePool} {s : Session}
    {a : Except String Unit} {row : SessionRow}
    (hread : (Party.reader, readEvent t row) ∈ Pool.log tr) (hsession : row.toSession = .ok s)
    (hfirst : ∀ y ∈ Pool.log tr, ¬ IsSetex t y)
    (hredis : w'.redis t = some ⟨s, P.world.now + seconds sessionTtlSeconds⟩) :
    EntryInv t w₀
      ((P, some (Party.reader, ⟨.redis (.setex t sessionTtlSeconds s), a⟩)) :: tr) w' := by
  refine ⟨fun ttl s' b hmem => ?_, fun e he => ?_, fun P' y s' hmem hparty hy hprec => ?_⟩
  · rcases List.mem_cons.mp hmem with heq | hmem
    · cases heq
      exact ⟨rfl, row, List.mem_cons_of_mem _ hread, hsession⟩
    · exact absurd ⟨rfl, ttl, s', rfl⟩ (hfirst _ hmem)
  · refine .inr ⟨P, _, s, List.mem_cons_self, rfl, rfl,
      (Option.some.inj (hredis.symm.trans he)).symm, ?_⟩
    rintro ⟨y, hy, hd⟩
    rcases List.mem_cons.mp hy with rfl | hy
    · cases hd.1
    · exact .inl ⟨⟨rfl, _, _, rfl⟩, y, hy, hd⟩
  · rcases List.mem_cons.mp hmem with heq | hmem
    · cases heq
      cases hy
      exact hredis
    · exact absurd ⟨hparty, _, _, hy⟩ (hfirst y (Pool.mem_log.mpr ⟨P', hmem⟩))

/-- Time passes. -/
theorem EntryInv.tick (hi : EntryInv t w₀ tr w) {P : StorePool}
    (hredis : w'.redis = w.redis) : EntryInv t w₀ ((P, none) :: tr) w' where
  copied := hi.copied
  entry e he := by
    rw [hredis] at he
    exact (hi.entry e he).imp_right fun ⟨P', y, s, hmem, hrest⟩ =>
      ⟨P', y, s, List.mem_cons_of_mem _ hmem, hrest⟩
  filled P' y s hmem hparty hy hprec := by
    rw [hredis]
    rcases List.mem_cons.mp hmem with heq | hmem
    · cases heq
    · exact hi.filled P' y s hmem hparty hy hprec

end Inv

/-- The parties keep to their programs. -/
theorem race_traced {t : SessionToken} {op : StoreOp} (hop : op.Invalidates) {w₀ : World}
    {tr : RaceHistory} {P : StorePool}
    (hr : Run (RaceInit t op w₀) (Pool.Step (Env noFault) World.Later) tr P) (i : Party) :
    (P.threads i).Traced (MayRequest t i) (fun _ h => Finished i h)
      (Pool.mine i (Pool.log tr)) := by
  refine Pool.traced_of_run (J := MayRequest t) (Q := fun i _ h => Finished i h) ?_ hr i
  intro P hP i
  cases i with
  | reader => rw [hP.reader]; exact traced_findValid
  | writer => rw [hP.writer]; exact traced_invalidates hop

section Step

variable {t : SessionToken} {w₀ w : World} {tr : RaceHistory} {P : StorePool}

/-- A step of the lookup keeps the invariants. -/
theorem reader_step {q : Req} {a : Ans q}
    (hmay : ReaderMay t (Pool.mine .reader (Pool.log tr)) q) (hE : Env noFault q P.world a w)
    (hdb : DbInv t w₀ (Pool.log tr) P.world) (hentry : EntryInv t w₀ tr P.world) :
    DbInv t w₀ ((Party.reader, ⟨q, a⟩) :: Pool.log tr) w ∧
      EntryInv t w₀ ((P, some (Party.reader, ⟨q, a⟩)) :: tr) w := by
  have hnowrite : ∀ {q : Req} {a : Ans q}, ¬ IsWrite (Party.reader, ⟨q, a⟩) := fun h => by cases h.1
  have hnodel : ∀ {q : Req} {a : Ans q}, ¬ IsDel t (Party.reader, ⟨q, a⟩) := fun h => by cases h.1
  have hnotokens : ∀ {q : Req} {a : Ans q} (u : UserId),
      ¬ (((Party.reader, ⟨q, a⟩) : PartyEvent).1 = .writer ∧ q = .query (.activeTokens u)) :=
    fun _ h => by cases h.1
  cases hmay with
  | get =>
    obtain ⟨-, rfl⟩ | ⟨hfault, -⟩ := hE
    · exact ⟨hdb.neutral le_rfl rfl (fun h => by cases h.2) hnowrite hnotokens,
        hentry.neutral rfl hnodel fun ⟨_, _, _, h⟩ => by cases h⟩
    · exact hfault.elim
  | clock =>
    obtain ⟨-, rfl⟩ := hE
    exact ⟨hdb.neutral le_rfl rfl (fun h => by cases h.2) hnowrite hnotokens,
      hentry.neutral rfl hnodel fun ⟨_, _, _, h⟩ => by cases h⟩
  | select hfirst =>
    obtain ⟨rfl, ha | ⟨hfault, -⟩⟩ := hE
    · refine ⟨hdb.select (fun x hx hs => ?_) ha,
        hentry.neutral rfl hnodel fun ⟨_, _, _, h⟩ => by cases h⟩
      obtain ⟨i, e⟩ := x
      obtain rfl : i = .reader := hs.1
      exact hfirst e (Pool.mem_mine.mpr hx) hs.2
    · exact hfault.elim
  | setex hread hsession hfirst =>
    obtain ⟨-, rfl⟩ | ⟨hfault, -⟩ := hE
    · refine ⟨hdb.neutral le_rfl rfl (fun h => by cases h.2) hnowrite hnotokens,
        .setex (Pool.mem_mine.mp hread) hsession (fun x hx hs => ?_)
          (Function.update_self t _ P.world.redis)⟩
      obtain ⟨i, e⟩ := x
      obtain ⟨hi, ttl, s, he⟩ := hs
      obtain rfl : i = .reader := hi
      exact hfirst e (Pool.mem_mine.mpr hx) ttl s he
    · exact hfault.elim

/-- A step of the operation keeps the invariants. -/
theorem writer_step {q : Req} {a : Ans q}
    (hmay : WriterMay (Pool.mine .writer (Pool.log tr)) q) (hE : Env noFault q P.world a w)
    (hdb : DbInv t w₀ (Pool.log tr) P.world) (hentry : EntryInv t w₀ tr P.world) :
    DbInv t w₀ ((Party.writer, ⟨q, a⟩) :: Pool.log tr) w ∧
      EntryInv t w₀ ((P, some (Party.writer, ⟨q, a⟩)) :: tr) w := by
  have hnoselect : ∀ {q : Req} {a : Ans q}, ¬ IsSelect t (Party.writer, ⟨q, a⟩) :=
    fun h => by cases h.1
  have hnosetex : ∀ {q : Req} {a : Ans q}, ¬ IsSetex t (Party.writer, ⟨q, a⟩) :=
    fun h => by cases h.1
  cases hmay with
  | @query q =>
    obtain ⟨rfl, ha | ⟨hfault, -⟩⟩ := hE
    · refine ⟨?_, hentry.neutral rfl (fun ⟨_, _, _, h⟩ => by cases h) hnosetex⟩
      by_cases htokens : ∃ u, q = .activeTokens u
      · obtain ⟨u, rfl⟩ := htokens
        exact hdb.activeTokens ha
      · refine hdb.neutral le_rfl rfl hnoselect (fun ⟨_, _, h⟩ => by cases h) fun u hu => ?_
        exact htokens ⟨u, Req.query.inj hu.2⟩
    · exact hfault.elim
  | write hquiet hfirst =>
    refine ⟨hdb.write hquiet (fun x hx hw => ?_) hE, hentry.neutral ?_
      (fun ⟨_, _, _, h⟩ => by cases h) hnosetex⟩
    · obtain ⟨i, e⟩ := x
      obtain ⟨hi, u, he⟩ := hw
      obtain rfl : i = .writer := hi
      exact hfirst e (Pool.mem_mine.mpr hx) u he
    · obtain ⟨_, _, -, -, rfl⟩ | ⟨_, -, -, rfl⟩ | ⟨hfault, -⟩ := hE
      · rfl
      · rfl
      · exact hfault.elim
  | @del tokens hfirst =>
    obtain ⟨-, rfl⟩ | ⟨hfault, -⟩ := hE
    · refine ⟨hdb.neutral le_rfl rfl hnoselect (fun ⟨_, _, h⟩ => by cases h)
        (fun _ h => by cases h.2), ?_⟩
      by_cases htoken : t ∈ tokens
      · refine hentry.del (if_pos htoken) (fun x hx hd => ?_) hnosetex
        obtain ⟨i, e⟩ := x
        obtain ⟨hi, tokens', -, he⟩ := hd
        obtain rfl : i = .writer := hi
        exact hfirst e (Pool.mem_mine.mpr hx) tokens' he
      · refine hentry.neutral (if_neg htoken) (fun hd => ?_) hnosetex
        obtain ⟨-, tokens', hmem, heq⟩ := hd
        cases heq
        exact htoken hmem
    · exact hfault.elim

end Step

/-- **The invariants of the race.**

**Proof sketch.** Induction on the interleaving; what the parties may request next, given what
they have seen, is known from their programs. -/
theorem race_inv {t : SessionToken} {op : StoreOp} (hop : op.Invalidates) {w₀ : World}
    (hnodup : (w₀.db.sessions.map (·.token)).Nodup) {tr : RaceHistory} {P : StorePool}
    (hr : Run (RaceInit t op w₀) (Pool.Step (Env noFault) World.Later) tr P) :
    DbInv t w₀ (Pool.log tr) P.world ∧ EntryInv t w₀ tr P.world := by
  induction hr with
  | start hi =>
    obtain rfl := hi.world
    refine ⟨⟨le_rfl, hnodup, fun row hrow => ⟨row, hrow, _, rfl⟩, fun _ row _ => Iff.rfl,
      fun _ _ hmem => absurd hmem List.not_mem_nil, fun _ _ hmem => absurd hmem List.not_mem_nil,
      fun _ hmem => absurd hmem List.not_mem_nil⟩, ⟨fun _ _ _ hmem => absurd hmem List.not_mem_nil,
      fun e he => .inl ⟨he, fun _ hmem => absurd hmem List.not_mem_nil⟩,
      fun _ _ _ hmem => absurd hmem List.not_mem_nil⟩⟩
  | @snoc tr P P' l hrun hstep ih =>
    obtain ⟨hdb, hentry⟩ := ih
    cases hstep with
    | tick hT =>
      refine ⟨hdb.tick hT, ?_⟩
      obtain ⟨n, -, rfl⟩ := hT
      exact hentry.tick rfl
    | @run i q k a w hi hE =>
      have htr := race_traced hop hrun i
      rw [hi] at htr
      have hmay := (Prog.wp_ask.mp htr).1
      cases i with
      | reader => exact reader_step hmay hE hdb hentry
      | writer => exact writer_step hmay hE hdb hentry

/-! ## After both calls -/

/-- A session that is returned is that of an active row. -/
theorem World.row_of_lookup {w : World} {t : SessionToken} {s : Session}
    (h : w.lookup t = .ok (some s)) :
    ∃ row ∈ w.db.sessions, row.token = t ∧ row.toSession = .ok s := by
  rw [World.lookup] at h
  cases hfind : w.db.sessions.find? fun r => r.token = t ∧ r.active w.now with
  | none => rw [hfind] at h; cases h
  | some row =>
    rw [hfind] at h
    have hkey : row.token = t ∧ row.active w.now = true := by simpa using List.find?_some hfind
    refine ⟨row, List.mem_of_find?_eq_some hfind, hkey.1, ?_⟩
    dsimp only at h
    cases hsession : row.toSession with
    | error e => rw [hsession] at h; cases h
    | ok s' => rw [hsession] at h; exact congrArg _ (Option.some.inj (Except.ok.inj h))

section End

variable {t : SessionToken} {op : StoreOp} {w₀ : World} {tr : RaceHistory} {P : StorePool}

/-- An operation that has finished without a `DEL` of the token has not changed its row, or the
row is expired. -/
theorem unaffected_of_finished (hdb : DbInv t w₀ (Pool.log tr) P.world)
    (hfin : Invalidated (Pool.mine .writer (Pool.log tr)))
    (hnodel : ∀ x ∈ Pool.log tr, ¬ IsDel t x) :
    SameRows t w₀.db P.world.db ∨
      ∃ row ∈ P.world.db.sessions, row.token = t ∧ row.expiresAt ≤ P.world.now := by
  by_cases hwrite : ∃ (u : Update) (a : u.Res),
      (Party.writer, ⟨.update u, (.ok a : Except SqlxError u.Res)⟩) ∈ Pool.log tr
  swap
  · exact .inl (hdb.same fun u a hmem => hwrite ⟨u, a, hmem⟩)
  obtain ⟨u, a, hmem⟩ := hwrite
  have haff := hdb.affected u a hmem
  have hfollowed := hfin u a (Pool.mem_mine.mpr hmem)
  have htoken : ∀ x, (∃ e ∈ Pool.mine Party.writer (Pool.log tr), e.1 = .redis (.del [x])) → x ≠ t := by
    rintro x ⟨e, he, hdel⟩ rfl
    exact hnodel _ (Pool.mem_mine.mp he) ⟨rfl, [x], List.mem_singleton_self x, hdel⟩
  have huser : ∀ v : UserId, (∃ b : Except SqlxError (List SessionToken),
      (⟨.query (.activeTokens v), b⟩ : Prog.Event Req Ans) ∈
        Pool.mine Party.writer (Pool.log tr) ∧ ∀ tokens, b = .ok tokens →
          tokens = [] ∨ ∃ e ∈ Pool.mine Party.writer (Pool.log tr), e.1 = .redis (.del tokens)) →
      (SameRows t w₀.db P.world.db ∨ ∃ row ∈ P.world.db.sessions, row.token = t ∧ row.userId = v) →
      SameRows t w₀.db P.world.db ∨
        ∃ row ∈ P.world.db.sessions, row.token = t ∧ row.expiresAt ≤ P.world.now := by
    rintro v ⟨b, hb, htokens⟩ (hsame | ⟨row, hrow, ht, hv⟩)
    · exact .inl hsame
    · obtain ⟨tokens, rfl, hrows⟩ := hdb.found v b (Pool.mem_mine.mp hb)
      rcases hrows row hrow ht hv with hin | hexpired
      · rcases htokens tokens rfl with rfl | ⟨e, he, hdel⟩
        · exact absurd hin List.not_mem_nil
        · exact absurd ⟨rfl, tokens, hin, hdel⟩ (hnodel _ (Pool.mem_mine.mp he))
      · exact .inr ⟨row, hrow, ht, hexpired⟩
  cases u with
  | deleteSession x => exact .inl (haff (htoken x hfollowed))
  | setMemberships x l => exact .inl (haff (htoken x hfollowed))
  | addSnapshot v s => exact huser v hfollowed haff
  | updateSnapshot v s => exact huser v hfollowed haff
  | removeSnapshot v s => exact huser v hfollowed haff
  | _ => exact hfollowed.elim

/-- A row of the token expires when its first row does. -/
theorem DbInv.expiresAt_eq (hdb : DbInv t w₀ (Pool.log tr) P.world)
    (hnodup : (w₀.db.sessions.map (·.token)).Nodup) {row row₀ : SessionRow}
    (hrow : row ∈ P.world.db.sessions) (htoken : row.token = t) (hrow₀ : row₀ ∈ w₀.db.sessions)
    (htoken₀ : row₀.token = t) : row.expiresAt = row₀.expiresAt := by
  obtain ⟨row₁, hrow₁, _, rfl⟩ := hdb.rows row hrow
  rw [Keyed.eq_of_key_eq _ hnodup hrow₁ hrow₀ (htoken.trans htoken₀.symm)]

/-- **An entry the database does not confirm comes from a stale fill.** -/
theorem staleFill_of_entry (hc : Coherent w₀) (hdb : DbInv t w₀ (Pool.log tr) P.world)
    (hentry : EntryInv t w₀ tr P.world)
    (hfin : Invalidated (Pool.mine .writer (Pool.log tr))) {e : CacheEntry}
    (he : P.world.redis t = some e) (hdeadline : P.world.now ≤ e.deadline)
    (hexpires : P.world.now < e.session.expiresAt)
    (hne : P.world.lookup t ≠ .ok (some e.session)) : StaleFill t w₀ tr P.world := by
  have hgone : ∀ row ∈ P.world.db.sessions, row.token = t → row.toSession ≠ .ok e.session := by
    rintro row hrow rfl hsession
    exact hne (World.lookup_of_row hdb.tokens hrow hsession hexpires)
  -- the session of a first row was invalidated
  have hdel : ∀ row ∈ w₀.db.sessions, row.token = t → row.toSession = .ok e.session →
      ∃ x ∈ Pool.log tr, IsDel t x := by
    intro row hrow htoken hsession
    by_contra hno
    rcases unaffected_of_finished hdb hfin fun x hx hd => hno ⟨x, hx, hd⟩ with
      hsame | ⟨row', hrow', htoken', hexpired⟩
    · exact hgone row ((hsame row htoken).mpr hrow) htoken hsession
    · rw [hdb.expiresAt_eq hc.tokens hrow' htoken' hrow htoken,
        ← (SessionRow.toSession_ok hsession).2.2.2.1] at hexpired
      exact absurd hexpires (not_lt.mpr hexpired)
  rcases hentry.entry e he with ⟨h₀, hnodel⟩ | ⟨P', x, s, hmem, hparty, hx, rfl, hlate⟩
  · obtain ⟨row, hrow, htoken, hsession⟩ := (hc.entries t e h₀ (hdb.now.trans hdeadline)
      (hdb.now.trans_lt hexpires)).resolve_left id
    obtain ⟨x, hx, hd⟩ := hdel row hrow htoken hsession
    exact absurd hd (hnodel x hx)
  · obtain ⟨i, q, a⟩ := x
    obtain rfl : i = .reader := hparty
    obtain rfl : q = .redis (.setex t sessionTtlSeconds s) := hx
    obtain ⟨-, row, hread, hsession⟩ :=
      hentry.copied sessionTtlSeconds s a (Pool.mem_log.mpr ⟨P', hmem⟩)
    obtain ⟨htoken, ⟨hrow, hearly⟩ | ⟨hrow, -⟩⟩ := hdb.read row hread
    swap
    · exact absurd hsession (hgone row hrow htoken)
    have hwrite : ∃ x ∈ Pool.log tr, IsWrite x := by
      by_contra hno
      have hsame := hdb.same fun u a hu => hno ⟨_, hu, rfl, u, rfl⟩
      exact hgone row ((hsame row htoken).mpr hrow) htoken hsession
    refine ⟨hearly hwrite, hlate (hdel row hrow htoken hsession),
      ⟨P', _, hmem, ⟨rfl, _, _, rfl⟩, hdeadline⟩, ?_⟩
    have hold : World.lookup { w₀ with now := P.world.now } row.token = .ok (some s) :=
      World.lookup_of_row (w := { w₀ with now := P.world.now }) hc.tokens hrow hsession hexpires
    rw [htoken] at hold
    rw [hold]
    exact hne.symm

/-- After a stale fill the lookups differ. -/
theorem StaleFill.cachedLookup_ne (hc : Coherent w₀) (hdb : DbInv t w₀ (Pool.log tr) P.world)
    (hentry : EntryInv t w₀ tr P.world) (hs : StaleFill t w₀ tr P.world) :
    P.world.cachedLookup t ≠ P.world.lookup t := by
  obtain ⟨P', ⟨i, q, a⟩, hmem, ⟨hi, ttl, s, hq⟩, hlive⟩ := hs.live
  obtain rfl : i = .reader := hi
  obtain rfl : q = .redis (.setex t ttl s) := hq
  obtain ⟨rfl, row, hread, hsession⟩ := hentry.copied ttl s a (Pool.mem_log.mpr ⟨P', hmem⟩)
  have hredis := hentry.filled P' _ s hmem rfl rfl hs.late
  obtain ⟨htoken, ⟨hrow, -⟩ | ⟨-, -, hno⟩⟩ := hdb.read row hread
  swap
  · exact absurd hs.early hno
  have hexp := (SessionRow.toSession_ok hsession).2.2.2.1
  by_cases hexpires : P.world.now < s.expiresAt
  · have hold : World.lookup { w₀ with now := P.world.now } row.token = .ok (some s) :=
      World.lookup_of_row (w := { w₀ with now := P.world.now }) hc.tokens hrow hsession hexpires
    rw [htoken] at hold
    have hchanged := hs.changed
    rw [World.cachedLookup_of_entry hredis hlive hexpires]
    rwa [hold] at hchanged
  · have hinactive : ∀ r : SessionRow, r.expiresAt = row.expiresAt →
        r.active P.world.now = false := by
      intro r hr
      refine decide_eq_false ?_
      rw [hr, ← hexp]
      exact hexpires
    refine absurd ?_ hs.changed
    rw [World.lookup_of_forall fun r hr ht => hinactive r (hdb.expiresAt_eq hc.tokens hr ht hrow htoken),
      World.lookup_of_forall (w := { w₀ with now := P.world.now }) fun r hr ht => hinactive r ?_]
    rw [Keyed.eq_of_key_eq _ hc.tokens hr hrow (ht.trans htoken.symm)]

/-- **When a revoked or changed session stays in the cache.**  From a coherent cache, after any
interleaving of the requests of a lookup with those of an invalidating operation, in which time
may pass between any two requests, every later lookup through the cache has the outcome of the
lookup in the database, unless the fill was stale.

**Proof sketch.** `race_inv`: the cache entry is the first one or that of the fill, and what was
filled is the first row, if it was read before the write, or the present one.  An entry that was
not dropped belongs to a session the operation did not change, or to an expired one. -/
theorem stale_fill_iff (hop : op.Invalidates) (hc : Coherent w₀)
    (hr : Run (RaceInit t op w₀) (Pool.Step (Env noFault) World.Later) tr P)
    (hdone : ∀ i, ∃ r, P.threads i = .done r) :
    (∀ w, P.world.Later w → ∀ r,
      (∃ w', (CachedSessionStore.findValid true t).Exec (Env noFault) w r w') ↔
        ∃ w', (PgSessionStore.findValid t).Exec (Env noFault) w r w') ↔
      ¬ StaleFill t w₀ tr P.world := by
  obtain ⟨hdb, hentry⟩ := race_inv hop hc.tokens hr
  have hfin : Invalidated (Pool.mine .writer (Pool.log tr)) := by
    have htr := race_traced hop hr .writer
    obtain ⟨r, hr⟩ := hdone .writer
    rw [hr] at htr
    exact Prog.wp_done.mp htr
  simp only [lookups_agree_iff]
  refine ⟨fun hagree hs => ?_, fun hs w hlater => World.cachedLookup_eq ?_⟩
  · exact hs.cachedLookup_ne hc hdb hentry (hagree _ (World.Later.refl _))
  · obtain ⟨n, hn, rfl⟩ := hlater
    intro e he hdeadline hexpires
    have hlookup : P.world.lookup t = .ok (some e.session) := by
      by_contra hne
      exact hs (staleFill_of_entry hc hdb hentry hfin he (hn.trans hdeadline)
        (lt_of_le_of_lt hn hexpires) hne)
    obtain ⟨row, hrow, htoken, hsession⟩ := World.row_of_lookup hlookup
    rw [← htoken]
    exact World.lookup_of_row (w := { P.world with now := n }) hdb.tokens hrow hsession hexpires

end End

namespace Scenario

/-- A user has logged in; the token is not cached. -/
def uncached : World :=
  (storeAfter (CachedSessionStore.store true)
    [.updateMemberships ⟨0⟩ [], .createWithKind ⟨901⟩ (seconds 3600) .access none]).world

/-- The cache is coherent then. -/
theorem coherent_uncached : Coherent uncached := by
  refine coherent_storeAfter fun op hop => ?_
  simp only [List.mem_cons, List.not_mem_nil, or_false] at hop
  rcases hop with rfl | rfl <;> trivial

/-- A lookup and a revocation of the token, about to start. -/
def race : StorePool :=
  { threads := fun i => match i with
      | .reader => (StoreOp.findValid ⟨0⟩).run (CachedSessionStore.store true)
      | .writer => (StoreOp.revoke ⟨0⟩).run (CachedSessionStore.store true)
    world := uncached }

/-- The race when the parties take turns as in a list. -/
def raced (turns : List Party) : RaceHistory × StorePool :=
  Pool.schedule World.answer turns race []

/-- Taking turns is an interleaving. -/
theorem run_raced (turns : List Party) :
    Run (RaceInit ⟨0⟩ (.revoke ⟨0⟩) uncached) (Pool.Step (Env noFault) World.Later)
      (raced turns).1 (raced turns).2 :=
  Pool.run_schedule (env_answer noFault) turns (.start ⟨rfl, rfl, rfl⟩)

/-- Both parties have returned. -/
theorem done_of_returned {P : StorePool}
    (h : ((P.threads .reader).returned && (P.threads .writer).returned) = true) :
    ∀ i, P.threads i = .done (.ok ()) := by
  intro i
  rw [Bool.and_eq_true] at h
  cases i with
  | reader => exact Prog.eq_done_of_returned h.1
  | writer => exact Prog.eq_done_of_returned h.2

end Scenario

/-- The criterion on an interleaving in which the lookup is first. -/
theorem stale_fill_iff_first :
    let P := Scenario.raced [.reader, .reader, .reader, .writer, .writer]
    (∀ w, P.2.world.Later w → ∀ r,
      (∃ w', (CachedSessionStore.findValid true ⟨0⟩).Exec (Env noFault) w r w') ↔
        ∃ w', (PgSessionStore.findValid ⟨0⟩).Exec (Env noFault) w r w') ↔
      ¬ StaleFill ⟨0⟩ Scenario.uncached P.1 P.2.world := by
  have hdone : ∀ i, (Scenario.raced [.reader, .reader, .reader, .writer, .writer]).2.threads i =
      .done (.ok ()) := Scenario.done_of_returned (by decide +kernel)
  exact @stale_fill_iff _ (.revoke ⟨0⟩) _ _ _ trivial Scenario.coherent_uncached
    (Scenario.run_raced _) fun i => ⟨_, hdone i⟩

/-- **A revoked token is accepted again**: the lookup misses the cache and reads the session,
the revocation deletes it and drops the cache entry, and the lookup caches it. -/
theorem stale_fill_revoke :
    let P := (Scenario.raced [.reader, .reader, .writer, .writer, .reader]).2
    (∃ tr, Run (RaceInit ⟨0⟩ (.revoke ⟨0⟩) Scenario.uncached)
      (Pool.Step (Env noFault) World.Later) tr P) ∧
    Coherent Scenario.uncached ∧ (∀ i, P.threads i = .done (.ok ())) ∧
    (∃ s w', (CachedSessionStore.findValid true ⟨0⟩).Exec (Env noFault) P.world (.ok (some s)) w') ∧
    ∃ w', (PgSessionStore.findValid ⟨0⟩).Exec (Env noFault) P.world (.ok none) w' := by
  refine ⟨⟨_, Scenario.run_raced _⟩, Scenario.coherent_uncached,
    Scenario.done_of_returned (by decide +kernel), ?_, ?_⟩
  · have hcached : ((Scenario.raced [.reader, .reader, .writer, .writer, .reader]).2.world.cachedLookup
        ⟨0⟩).toOption.join.isSome = true := by decide +kernel
    obtain ⟨s, hs⟩ := Option.isSome_iff_exists.mp hcached
    refine ⟨s, CachedSessionStore.exec_findValid_iff.mpr ?_⟩
    generalize World.cachedLookup _ _ = r at hs
    match r, hs with
    | .ok (some s'), hs =>
        obtain rfl : s' = s := Option.some.inj hs
        rfl
  · refine PgSessionStore.exec_findValid_iff.mpr (World.lookup_of_forall ?_).symm
    decide +kernel

end Klynt
