import Klynt.Lib.Run
import Klynt.System.StoreRun

set_option relaxedAutoImplicit false
set_option autoImplicit false

/-!
# The cache agrees with the database in sequential runs

With a healthy cache, every operation but the revocation of a pair invalidates what it
changes: the token it is given, or the active tokens of a user.  A session that expires between
a change and the lookup of the active tokens is not invalidated, and need not be, since an
expired session is not returned from the cache either.

## Main definitions

* `CoherentBut` — the cache agrees with the database but for some entries.
* `StoreOp.Mirrored` — the operations that keep the cache coherent.

## Main results

* `StoreOp.ensures_coherent` — these operations keep the cache coherent.
* `lookups_agree_iff` — when the two lookups have the same outcomes.
* `cache_coherence` — in their runs, a lookup through the cache is a lookup in the database.
-/

namespace Klynt

/-! ## Coherence -/

/-- The cache agrees with the database but for entries of which `X` holds.  Entries that are no
longer returned need not agree. -/
structure CoherentBut (X : World → SessionToken → CacheEntry → Prop) (w : World) : Prop where
  /-- Tokens are distinct. -/
  tokens : (w.db.sessions.map (·.token)).Nodup
  /-- An entry that can be returned is the session of the token's row. -/
  entries : ∀ k e, w.redis k = some e → w.now ≤ e.deadline → w.now < e.session.expiresAt →
    X w k e ∨ ∃ row ∈ w.db.sessions, row.token = k ∧ row.toSession = .ok e.session

/-- The cache agrees with the database. -/
abbrev Coherent : World → Prop := CoherentBut fun _ _ _ => False

/-- The entries under the tokens of a list. -/
def Under (tokens : List SessionToken) (_ : World) (k : SessionToken) (_ : CacheEntry) : Prop :=
  k ∈ tokens

/-- The entries of sessions of a user. -/
def OfUser (u : UserId) (w : World) (k : SessionToken) (e : CacheEntry) : Prop :=
  ∃ row ∈ w.db.sessions, row.token = k ∧ row.userId = u ∧ row.expiresAt = e.session.expiresAt

/-- Time passes, and sessions may be created and cache entries dropped. -/
structure World.Keeps (w w' : World) : Prop where
  /-- Time does not run backwards. -/
  now : w.now ≤ w'.now
  /-- No session changes. -/
  sessions : ∀ row ∈ w.db.sessions, row ∈ w'.db.sessions
  /-- Tokens stay distinct. -/
  tokens : (w.db.sessions.map (·.token)).Nodup → (w'.db.sessions.map (·.token)).Nodup
  /-- No entry is added. -/
  redis : ∀ k, w'.redis k = w.redis k ∨ w'.redis k = none

section Coherent

variable {X Y : World → SessionToken → CacheEntry → Prop} {w w' : World}

/-- Nothing happens. -/
theorem World.Keeps.refl (w : World) : w.Keeps w := ⟨le_rfl, fun _ h => h, id, fun _ => .inl rfl⟩

/-- One thing after another. -/
theorem World.Keeps.trans {w₁ w₂ w₃ : World} (h : w₁.Keeps w₂) (h' : w₂.Keeps w₃) :
    w₁.Keeps w₃ where
  now := h.now.trans h'.now
  sessions row hrow := h'.sessions row (h.sessions row hrow)
  tokens hnodup := h'.tokens (h.tokens hnodup)
  redis k := (h'.redis k).elim (fun hk => hk ▸ h.redis k) .inr

/-- Time passes. -/
theorem World.Later.keeps (h : w.Later w') : w.Keeps w' := by
  obtain ⟨t, ht, rfl⟩ := h
  exact { World.Keeps.refl w with now := ht }

/-- **What keeps the sessions keeps coherence**, whatever time passes. -/
theorem CoherentBut.keep (hc : CoherentBut X w) (h : w.Keeps w')
    (hX : ∀ k e, X w k e → X w' k e) : CoherentBut X w' := by
  refine ⟨h.tokens hc.tokens, fun k e he hdeadline hexpires => ?_⟩
  rcases h.redis k with hk | hk
  · rcases hc.entries k e (hk ▸ he) (h.now.trans hdeadline) (h.now.trans_lt hexpires) with
      hx | ⟨row, hrow, hkey⟩
    · exact .inl (hX k e hx)
    · exact .inr ⟨row, h.sessions row hrow, hkey⟩
  · rw [hk] at he; cases he

/-- What keeps the sessions keeps the cache coherent. -/
theorem Coherent.keep (hc : Coherent w) (h : w.Keeps w') : Coherent w' :=
  CoherentBut.keep hc h fun _ _ hx => hx

/-- Fewer entries are excepted. -/
theorem CoherentBut.weaken (hc : CoherentBut X w)
    (hXY : ∀ k e, w.now < e.session.expiresAt → X w k e → Y w k e) : CoherentBut Y w := by
  refine ⟨hc.tokens, fun k e he hdeadline hexpires => ?_⟩
  exact (hc.entries k e he hdeadline hexpires).imp_left (hXY k e hexpires)

/-- Dropping all excepted entries. -/
theorem CoherentBut.drop (hc : CoherentBut X w) (hnow : w'.now = w.now) (hdb : w'.db = w.db)
    (hredis : ∀ k e, w'.redis k = some e → w.redis k = some e ∧ ¬ X w k e) : Coherent w' := by
  refine ⟨hdb ▸ hc.tokens, fun k e he hdeadline hexpires => ?_⟩
  obtain ⟨hk, hx⟩ := hredis k e he
  rw [hnow] at hdeadline hexpires
  rw [hdb]
  exact (hc.entries k e hk hdeadline hexpires).imp_left fun h => hx h

/-- A session of the database may be cached. -/
theorem Coherent.fill (hc : Coherent w) {row : SessionRow} {session : Session}
    (hrow : row ∈ w.db.sessions) (hsession : row.toSession = .ok session) (deadline : Time) :
    Coherent { w with redis := Function.update w.redis row.token (some ⟨session, deadline⟩) } := by
  refine ⟨hc.tokens, fun k e he hdeadline hexpires => ?_⟩
  by_cases hk : k = row.token
  · subst hk
    have hentry : (⟨session, deadline⟩ : CacheEntry) = e :=
      Option.some.inj ((Function.update_self row.token _ w.redis).symm.trans he)
    subst hentry
    exact .inr ⟨row, hrow, rfl, hsession⟩
  · exact hc.entries k e ((Function.update_of_ne hk _ w.redis).symm.trans he) hdeadline hexpires

end Coherent

/-! ## Statements on sessions -/

section Statements

variable {w : World} {db : Db}

/-- Deleting a session excepts its token. -/
theorem Coherent.deleteSession (hc : Coherent w) {token : SessionToken}
    (h : Klynt.deleteSession token w.now w.db = .ok ((), db)) :
    CoherentBut (Under [token]) { w with db } := by
  obtain ⟨-, rfl⟩ := Prod.mk.inj (Except.ok.inj h)
  refine ⟨Keyed.nodup_filter _ hc.tokens, fun k e he hdeadline hexpires => ?_⟩
  obtain ⟨row, hrow, htoken, hsession⟩ :=
    (hc.entries k e he hdeadline hexpires).resolve_left id
  by_cases hk : k = token
  · exact .inl (List.mem_singleton.mpr hk)
  · refine .inr ⟨row, List.mem_filter.mpr ⟨hrow, ?_⟩, htoken, hsession⟩
    simpa [htoken] using hk

/-- Replacing the snapshots of a session excepts its token. -/
theorem Coherent.setSessionMemberships (hc : Coherent w) {token : SessionToken} {column : Json}
    (h : Klynt.setSessionMemberships token column w.now w.db = .ok ((), db)) :
    CoherentBut (Under [token]) { w with db } := by
  obtain ⟨-, rfl⟩ := Prod.mk.inj (Except.ok.inj h)
  refine ⟨Keyed.nodup_map _ (fun row => by split <;> rfl) hc.tokens,
    fun k e he hdeadline hexpires => ?_⟩
  obtain ⟨row, hrow, htoken, hsession⟩ :=
    (hc.entries k e he hdeadline hexpires).resolve_left id
  by_cases hk : k = token
  · exact .inl (List.mem_singleton.mpr hk)
  · refine .inr ⟨row, List.mem_map.mpr ⟨row, hrow, if_neg ?_⟩, htoken, hsession⟩
    rw [htoken]; exact hk

/-- Editing the snapshots of a user's active sessions excepts the user's sessions. -/
theorem Coherent.editSessionMemberships (hc : Coherent w) {edit : Json → Except String Json}
    {u : UserId} (h : Klynt.editSessionMemberships edit u w.now w.db = .ok ((), db)) :
    CoherentBut (OfUser u) { w with db } := by
  obtain ⟨sessions, rfl, hedited⟩ := editSessionMemberships_ok h
  refine ⟨?_, fun k e he hdeadline hexpires => ?_⟩
  · have htokens : w.db.sessions.map (·.token) = sessions.map (·.token) := by
      refine hedited.map_eq fun row row' hrow => ?_
      obtain ⟨_, rfl, -⟩ := hrow
      rfl
    exact htokens ▸ hc.tokens
  · obtain ⟨row, hrow, htoken, hsession⟩ :=
      (hc.entries k e he hdeadline hexpires).resolve_left id
    obtain ⟨row', hrow', column, rfl, hcolumn⟩ := hedited.exists_right hrow
    by_cases hactive : row.userId = u ∧ row.active w.now
    · exact .inl ⟨_, hrow', htoken, hactive.1, (SessionRow.toSession_ok hsession).2.2.2.1.symm⟩
    · rw [if_neg hactive] at hcolumn
      subst hcolumn
      exact .inr ⟨row, hrow', htoken, hsession⟩

end Statements

/-! ## Operations -/

/-- Requests that change no session and add no cache entry. -/
def Req.Keeping : Req → Prop
  | .update (.insertSession _ _ _ _ _ _) => True
  | .update _ | .transaction _ | .redis (.setex _ _ _) => False
  | _ => True

/-- Such a request keeps the sessions. -/
theorem Req.Keeping.keeps {q : Req} (hq : q.Keeping) {w w' : World} {a : Ans q}
    (h : Env noFault q w a w') : w.Keeps w' := by
  have hrefl := World.Keeps.refl w
  cases q with
  | clock => obtain ⟨-, rfl⟩ := h; exact hrefl
  | uuid => obtain rfl := h; exact { hrefl with }
  | secureToken => obtain rfl := h; exact hrefl
  | query q => obtain ⟨rfl, -⟩ := h; exact hrefl
  | update u =>
    cases u with
    | insertSession id token u kind pairId expiresAt =>
      obtain ⟨_, db, hx, -, rfl⟩ | ⟨e, -, -, rfl⟩ | ⟨hfault, -⟩ := h
      · obtain ⟨-, hfresh, -, rfl⟩ := insertSession_ok hx
        exact { hrefl with
          sessions := fun row hrow => List.mem_append_left _ hrow
          tokens := fun hnodup => Keyed.nodup_concat _ hnodup hfresh }
      · exact hrefl
      · exact hfault.elim
    | _ => exact hq.elim
  | transaction t => exact hq.elim
  | redis c =>
    obtain ⟨-, rfl⟩ | ⟨hfault, -⟩ := h
    · cases c with
      | get token => exact hrefl
      | setex token ttl session => exact hq.elim
      | del tokens =>
        refine { hrefl with redis := fun k => ?_ }
        by_cases hk : k ∈ tokens
        · exact .inr (if_pos hk)
        · exact .inl (if_neg hk)
    · exact hfault.elim
  | verifyPassword p s => obtain rfl := h; exact hrefl
  | hashPassword p => obtain rfl := h; exact hrefl
  | sendVerification e t b => obtain rfl := h; exact hrefl
  | sendPasswordReset e t b => obtain rfl := h; exact hrefl

/-- After a change that failed the cache is coherent; one that succeeded excepts what it
changed. -/
def Changed (X : World → SessionToken → CacheEntry → Prop) {ε α : Type} :
    Except ε α → Timeline World → Prop
  | .ok _, h => CoherentBut X h.world
  | .error _, h => Coherent h.world

section Op

variable {h : Timeline World} {X : World → SessionToken → CacheEntry → Prop}

/-- A program of requests that keep the sessions. -/
theorem ensures_keep {ε α : Type} {p : Action ε α} (hp : p.All Req.Keeping) :
    p.Ensures (TimedEnv noFault) (fun _ h' => h.world.Keeps h'.world) h := by
  refine Prog.ensures_of_all (R := fun h h' : Timeline World => h.world.Keeps h'.world)
    (fun h => .refl _) (fun h₁ h₂ => h₁.trans h₂) ?_ hp fun _ _ hk => hk
  rintro q h a _ hq ⟨w, w', hlater, hE, rfl⟩
  exact hlater.keeps.trans (hq.keeps hE)

/-- A statement that fails has no effect, and one that succeeds excepts what it changes. -/
theorem ensures_execute {ε : Type} {u : Update} {f : SqlxError → ε}
    (hu : ∀ w db r, Coherent w → u.exec w.now w.db = .ok (r, db) → CoherentBut X { w with db })
    (hc : Coherent h.world) :
    ((execute u).mapErr f).Ensures (TimedEnv noFault) (Changed X) h := by
  refine Prog.wp_mapErr.mpr (Prog.ensures_ask.mpr fun a h' he => ?_)
  obtain ⟨w, w', hlater, hE, rfl⟩ := he
  have hw : Coherent w := hc.keep hlater.keeps
  obtain ⟨r, db, hx, rfl, rfl⟩ | ⟨e, -, rfl, rfl⟩ | ⟨hfault, -⟩ := hE
  · exact hu w db r hw hx
  · exact hw
  · exact hfault.elim

/-- `DEL` drops the entries of its tokens. -/
theorem ensures_del {tokens : List SessionToken} (hc : CoherentBut (Under tokens) h.world) :
    (command (.del tokens)).Ensures (TimedEnv noFault) (fun _ h' => Coherent h'.world) h := by
  refine Prog.ensures_ask.mpr fun a h' he => ?_
  obtain ⟨w, w', hlater, hE, rfl⟩ := he
  have hw : CoherentBut (Under tokens) w := hc.keep hlater.keeps fun _ _ hx => hx
  obtain ⟨-, rfl⟩ | ⟨hfault, -⟩ := hE
  · refine hw.drop rfl rfl fun k e he => ?_
    change (if k ∈ tokens then none else w.redis k) = some e at he
    split at he
    · cases he
    · rename_i hk
      exact ⟨he, hk⟩
  · exact hfault.elim

/-- A change followed by the invalidation of what it excepts. -/
theorem ensures_changeThen {ε : Type} {p : Action ε Unit} {q : Action ε Unit}
    (hp : p.Ensures (TimedEnv noFault) (Changed X) h)
    (hq : ∀ h', CoherentBut X h'.world →
      q.Ensures (TimedEnv noFault) (fun _ h' => Coherent h'.world) h') :
    (p >>= fun _ => q).Ensures (TimedEnv noFault) (fun _ h' => Coherent h'.world) h := by
  refine Prog.wp_bind.mpr (hp.mono fun r h' hr => ?_)
  cases r with
  | ok _ => exact hq h' hr
  | error e => exact hr

namespace CachedSessionStore

/-- Invalidating a token drops its entry. -/
theorem ensures_invalidateCache_coherent {token : SessionToken}
    (hc : CoherentBut (Under [token]) h.world) :
    (invalidateCache true token).Ensures (TimedEnv noFault) (fun _ h' => Coherent h'.world) h :=
  Prog.wp_bind.mpr (Prog.wp_rejectIf.mpr
    ⟨fun _ => Prog.wp_mapErr.mpr (ensures_del hc), fun hf => by cases hf⟩)

/-- **Invalidating the active tokens of a user** drops the entries of all sessions of the user
that can still be returned. -/
theorem ensures_invalidateActiveTokens_coherent {u : UserId}
    (hc : CoherentBut (OfUser u) h.world) :
    (invalidateActiveTokens true u).Ensures (TimedEnv noFault)
      (fun _ h' => Coherent h'.world) h := by
  refine Prog.wp_bind.mpr (Prog.wp_attempt.mpr (Prog.wp_mapErr.mpr
    (Prog.ensures_ask.mpr fun a h₁ he => ?_)))
  obtain ⟨w, w', hlater, ⟨rfl, ha⟩, rfl⟩ := he
  have hw : CoherentBut (OfUser u) w' := by
    refine hc.keep hlater.keeps fun k e hx => ?_
    obtain ⟨row, hrow, hkey⟩ := hx
    exact ⟨row, hlater.keeps.sessions row hrow, hkey⟩
  obtain ha | ⟨hfault, -⟩ := ha
  swap
  · exact hfault.elim
  subst ha
  have hactive : CoherentBut (Under ((w'.db.activeSessionsOf w'.now u).map (·.token))) w' := by
    refine hw.weaken fun k e hexpires hx => ?_
    obtain ⟨row, hrow, rfl, huser, hexp⟩ := hx
    refine List.mem_map.mpr ⟨row, List.mem_filter.mpr ⟨hrow, ?_⟩, rfl⟩
    have hlive : row.active w'.now = true := decide_eq_true (hexp ▸ hexpires)
    simp [huser, hlive]
  dsimp only [Except.mapError, Query.exec]
  split
  · rename_i hempty
    refine Prog.wp_pure.mpr (hactive.weaken fun k e _ hx => ?_)
    rcases hempty with hempty | hf
    · rw [Under, hempty] at hx; cases hx
    · cases hf
  · exact Prog.wp_bind.mpr (Prog.wp_attempt.mpr ((ensures_del hactive).mono fun _ _ hdone =>
      Prog.wp_pure.mpr hdone))

/-- Caching a session of the database keeps the cache coherent. -/
theorem ensures_writeCache_coherent {row : SessionRow} {session : Session} {token : SessionToken}
    (hc : Coherent h.world) (hrow : row ∈ h.world.db.sessions) (htoken : row.token = token)
    (hsession : row.toSession = .ok session) :
    (writeCache true token session).Ensures (TimedEnv noFault)
      (fun _ h' => Coherent h'.world) h := by
  refine Prog.wp_bind.mpr (Prog.wp_rejectIf.mpr ⟨fun _ => ?_, fun hf => by cases hf⟩)
  refine Prog.wp_mapErr.mpr (Prog.ensures_ask.mpr fun a h' he => ?_)
  obtain ⟨w, w', hlater, hE, rfl⟩ := he
  obtain ⟨-, rfl⟩ | ⟨hfault, -⟩ := hE
  · subst htoken
    exact Coherent.fill (hc.keep hlater.keeps)
      (hlater.keeps.sessions row hrow) hsession _
  · exact hfault.elim

end CachedSessionStore

namespace CachedSessionStore

/-- A lookup keeps the cache coherent. -/
theorem ensures_findValid_coherent {token : SessionToken} (hc : Coherent h.world) :
    (findValid true token).Ensures (TimedEnv noFault) (fun _ h' => Coherent h'.world) h := by
  have hdatabase : ∀ h₁, Coherent h₁.world →
      (PgSessionStore.findValid token >>= fillCache true token).Ensures (TimedEnv noFault)
        (fun _ h' => Coherent h'.world) h₁ := by
    intro h₁ hc₁
    have hall : (PgSessionStore.findValid token).All Req.Keeping := by
      refine (all_select (q := .activeSession token) trivial).mapErr.bind fun row => ?_
      cases row <;> trivial
    refine Prog.wp_bind.mpr (((ensures_keep hall).and PgSessionStore.ensures_findValid).mono ?_)
    rintro r h₂ ⟨hkeeps, -, hfound⟩
    have hc₂ : Coherent h₂.world := hc₁.keep hkeeps
    cases r with
    | error e => exact hc₂
    | ok session =>
      cases session with
      | none => exact Prog.wp_pure.mpr hc₂
      | some s =>
        obtain ⟨row, hrow, htoken, hsession⟩ := hfound s rfl
        dsimp only [fillCache]
        split
        · refine Prog.wp_bind.mpr (Prog.wp_attempt.mpr ?_)
          exact (ensures_writeCache_coherent hc₂ hrow htoken hsession).mono fun _ _ hdone =>
            Prog.wp_pure.mpr hdone
        · exact Prog.wp_pure.mpr hc₂
  have hread := ensures_keep (h := h) (all_readCache (φ := Req.Keeping) true token trivial trivial)
  refine Prog.wp_bind.mpr (Prog.wp_attempt.mpr (hread.mono fun r h₁ hkeeps => ?_))
  have hc₁ : Coherent h₁.world := hc.keep hkeeps
  cases r with
  | error e => exact hdatabase h₁ hc₁
  | ok found =>
    cases found with
    | none => exact hdatabase h₁ hc₁
    | some s => exact Prog.wp_pure.mpr hc₁

/-- Creating a session keeps the cache coherent. -/
theorem ensures_createWithKind_coherent {u : UserId} {expiresAt : Time} {kind : SessionKind}
    {pairId : Option Uuid} (hc : Coherent h.world) :
    (createWithKind true u expiresAt kind pairId).Ensures (TimedEnv noFault)
      (fun _ h' => Coherent h'.world) h := by
  have hall : (PgSessionStore.createWithKind u expiresAt kind pairId).All Req.Keeping := by
    refine Prog.All.bind ⟨trivial, fun _ => trivial⟩ fun token => ?_
    refine Prog.All.bind ⟨trivial, fun _ => trivial⟩ fun id => ?_
    exact (all_execute (u := .insertSession id ⟨token⟩ u kind pairId expiresAt) trivial).mapErr.bind
      fun _ => trivial
  refine Prog.wp_bind.mpr (((ensures_keep hall).and PgSessionStore.ensures_createWithKind).mono ?_)
  rintro r h₁ ⟨hkeeps, -, hcreated⟩
  have hc₁ : Coherent h₁.world := hc.keep hkeeps
  cases r with
  | error e => exact hc₁
  | ok token =>
    obtain ⟨row, hrow, htoken, hsession⟩ := hcreated token rfl
    dsimp only
    split
    · refine Prog.wp_bind.mpr (Prog.wp_attempt.mpr ?_)
      exact (ensures_writeCache_coherent hc₁ hrow htoken hsession).mono fun _ _ hdone =>
        Prog.wp_pure.mpr hdone
    · exact Prog.wp_pure.mpr hc₁

/-- Revoking a session keeps the cache coherent. -/
theorem ensures_revoke_coherent {token : SessionToken} (hc : Coherent h.world) :
    (revoke true token).Ensures (TimedEnv noFault) (fun _ h' => Coherent h'.world) h :=
  ensures_changeThen
    (ensures_execute (u := .deleteSession token) (X := Under [token]) (f := SessionError.ofSqlx)
      (fun _ _ _ hw hx => hw.deleteSession hx) hc)
    fun _ hc' => Prog.wp_bind.mpr (Prog.wp_attempt.mpr
      ((ensures_invalidateCache_coherent hc').mono fun _ _ hdone => Prog.wp_pure.mpr hdone))

end CachedSessionStore

/-- The operations that keep the cache coherent. -/
def StoreOp.Mirrored : StoreOp → Prop
  | revokePair _ _ | invalidatePair _ => False
  | _ => True

/-- **These operations keep the cache coherent.** -/
theorem StoreOp.ensures_coherent {op : StoreOp} (hop : op.Mirrored) (hc : Coherent h.world) :
    (op.run (CachedSessionStore.store true)).Ensures (TimedEnv noFault)
      (fun _ h' => Coherent h'.world) h := by
  cases op with
  | createWithKind u expiresAt kind pairId =>
    exact Prog.wp_forget.mpr (CachedSessionStore.ensures_createWithKind_coherent hc)
  | findValid token => exact Prog.wp_forget.mpr (CachedSessionStore.ensures_findValid_coherent hc)
  | revoke token => exact Prog.wp_forget.mpr (CachedSessionStore.ensures_revoke_coherent hc)
  | revokeById u id =>
    have hall : (PgSessionStore.resolveActiveTokenById u id).All Req.Keeping :=
      (all_select (q := .activeTokenById u id) trivial).mapErr.bind fun _ => Prog.all_ofOption _ _
    refine Prog.wp_forget.mpr (Prog.wp_bind.mpr ((ensures_keep hall).mono fun r h₁ hkeeps => ?_))
    have hc₁ : Coherent h₁.world := hc.keep hkeeps
    cases r with
    | ok token => exact CachedSessionStore.ensures_revoke_coherent hc₁
    | error e => exact hc₁
  | revokePair pairId exceptToken => exact hop.elim
  | listActiveByUser u =>
    have hall : (PgSessionStore.listActiveByUser u).All Req.Keeping :=
      (all_select (q := .activeSessions u) trivial).mapErr.bind fun _ => trivial
    exact Prog.wp_forget.mpr ((ensures_keep hall).mono fun _ _ hk => hc.keep hk)
  | updateMemberships token snapshots =>
    exact Prog.wp_forget.mpr (ensures_changeThen
      (ensures_execute (u := .setMemberships token snapshots) (X := Under [token])
        (f := SessionError.ofSqlx)
        (fun _ _ _ hw hx => hw.setSessionMemberships hx) hc)
      fun _ hc' => Prog.wp_bind.mpr (Prog.wp_attempt.mpr
        ((CachedSessionStore.ensures_invalidateCache_coherent hc').mono fun _ _ hdone =>
          Prog.wp_pure.mpr hdone)))
  | addMembership u snapshot =>
    exact Prog.wp_forget.mpr (ensures_changeThen
      (ensures_execute (u := .addSnapshot u snapshot) (X := OfUser u) (f := SessionError.ofSqlx)
        (fun _ _ _ hw hx => hw.editSessionMemberships hx) hc)
      fun _ hc' => CachedSessionStore.ensures_invalidateActiveTokens_coherent hc')
  | updateMembershipForUser u snapshot =>
    exact Prog.wp_forget.mpr (ensures_changeThen
      (ensures_execute (u := .updateSnapshot u snapshot) (X := OfUser u) (f := SessionError.ofSqlx)
        (fun _ _ _ hw hx => hw.editSessionMemberships hx) hc)
      fun _ hc' => CachedSessionStore.ensures_invalidateActiveTokens_coherent hc')
  | removeMembership u t =>
    exact Prog.wp_forget.mpr (ensures_changeThen
      (ensures_execute (u := .removeSnapshot u t) (X := OfUser u) (f := SessionError.ofSqlx)
        (fun _ _ _ hw hx => hw.editSessionMemberships hx) hc)
      fun _ hc' => CachedSessionStore.ensures_invalidateActiveTokens_coherent hc')
  | invalidatePair token => exact hop.elim

end Op

/-! ## Lookups -/

/-- What a lookup in the database returns. -/
def World.lookup (w : World) (token : SessionToken) : Except SessionError (Option Session) :=
  match w.db.sessions.find? fun s => s.token = token ∧ s.active w.now with
  | some row => row.toSession.map some
  | none => .ok none

section Lookup

variable {w w' : World} {token : SessionToken}

/-- With distinct tokens, the active row of a token is the one that is found. -/
theorem World.lookup_of_mem (hnodup : (w.db.sessions.map (·.token)).Nodup) {row : SessionRow}
    (hrow : row ∈ w.db.sessions) (hactive : row.active w.now = true) :
    w.lookup row.token = row.toSession.map some := by
  have hfound : w.db.sessions.find? (fun s => s.token = row.token ∧ s.active w.now) = some row := by
    cases hfind : w.db.sessions.find? fun s => s.token = row.token ∧ s.active w.now with
    | none =>
      have hnone := List.find?_eq_none.mp hfind row hrow
      simp [hactive] at hnone
    | some row' =>
      have hkey : row'.token = row.token ∧ row'.active w.now = true := by
        simpa using List.find?_some hfind
      rw [Keyed.eq_of_key_eq _ hnodup (List.mem_of_find?_eq_some hfind) hrow hkey.1]
  rw [World.lookup, hfound]

/-- A token without an active row is not found. -/
theorem World.lookup_of_forall
    (hrows : ∀ row ∈ w.db.sessions, row.token = token → row.active w.now = false) :
    w.lookup token = .ok none := by
  have hnone : w.db.sessions.find? (fun s => s.token = token ∧ s.active w.now) = none := by
    refine List.find?_eq_none.mpr fun row hrow hkey => ?_
    have hboth : row.token = token ∧ row.active w.now = true := by simpa using hkey
    rw [hrows row hrow hboth.1] at hboth
    cases hboth.2
  rw [World.lookup, hnone]

/-- A lookup in the database. -/
theorem PgSessionStore.ensures_findValid_lookup :
    (findValid token).Ensures (Env noFault) (fun r w' => r = w.lookup token ∧ w' = w) w := by
  refine Prog.wp_bind.mpr (Prog.wp_mapErr.mpr (Prog.ensures_ask.mpr ?_))
  rintro a w' ⟨rfl, rfl | ⟨hfault, -⟩⟩
  swap
  · exact hfault.elim
  dsimp only [Except.mapError, Query.exec]
  rw [World.lookup]
  cases w'.db.sessions.find? fun s => s.token = token ∧ s.active w'.now with
  | none => exact Prog.wp_pure.mpr ⟨rfl, rfl⟩
  | some row => exact Prog.wp_done.mpr ⟨rfl, rfl⟩

/-- What a lookup through the cache returns. -/
def World.cachedLookup (w : World) (token : SessionToken) : Except SessionError (Option Session) :=
  match w.redis.get w.now token with
  | some session => if session.expiresAt ≤ w.now then w.lookup token else .ok (some session)
  | none => w.lookup token

/-- A lookup through the cache. -/
theorem CachedSessionStore.ensures_findValid_cachedLookup :
    (findValid true token).Ensures (Env noFault) (fun r _ => r = w.cachedLookup token) w := by
  have hdatabase : (PgSessionStore.findValid token >>= fillCache true token).Ensures (Env noFault)
      (fun r _ => r = w.lookup token) w := by
    refine Prog.wp_bind.mpr (PgSessionStore.ensures_findValid_lookup.mono ?_)
    rintro r w' ⟨hr, rfl⟩
    rw [← hr]
    cases r with
    | error e => rfl
    | ok session =>
      cases session with
      | none => exact Prog.wp_pure.mpr rfl
      | some s =>
        dsimp only [fillCache]
        split
        · refine Prog.wp_bind.mpr (Prog.wp_attempt.mpr (Prog.ensures_iff.mpr fun _ _ _ => ?_))
          exact Prog.wp_pure.mpr rfl
        · exact Prog.wp_pure.mpr rfl
  refine Prog.wp_bind.mpr (Prog.wp_attempt.mpr (Prog.wp_bind.mpr (Prog.wp_rejectIf.mpr
    ⟨fun _ => ?_, fun hf => by cases hf⟩)))
  refine Prog.wp_bind.mpr (Prog.wp_mapErr.mpr (Prog.ensures_ask.mpr fun a w' hE => ?_))
  obtain ⟨rfl, rfl⟩ | ⟨hfault, -⟩ := hE
  swap
  · exact hfault.elim
  dsimp only [Except.mapError, Command.result, Command.effect]
  rw [World.cachedLookup]
  cases w.redis.get w.now token with
  | none => exact Prog.wp_pure.mpr hdatabase
  | some session =>
    refine Prog.wp_bind.mpr (Prog.ensures_ask.mpr ?_)
    rintro t w' ⟨rfl, rfl⟩
    dsimp only
    split
    · exact Prog.wp_pure.mpr hdatabase
    · exact Prog.wp_pure.mpr (Prog.wp_pure.mpr rfl)

/-- Lookups agree if a cached session that can be returned is what the database returns. -/
theorem World.cachedLookup_eq (h : ∀ e, w.redis token = some e → w.now ≤ e.deadline →
    w.now < e.session.expiresAt → w.lookup token = .ok (some e.session)) :
    w.cachedLookup token = w.lookup token := by
  rw [World.cachedLookup]
  cases hget : w.redis.get w.now token with
  | none => rfl
  | some session =>
    obtain ⟨e, he, hlive⟩ := Option.bind_eq_some_iff.mp hget
    split at hlive
    · rename_i hdeadline
      obtain rfl := Option.some.inj hlive
      dsimp only
      split
      · rfl
      · rename_i hexpires
        exact (h e he hdeadline (not_le.mp hexpires)).symm
    · cases hlive

/-- A cached session that can be returned is returned. -/
theorem World.cachedLookup_of_entry {e : CacheEntry} (he : w.redis token = some e)
    (hdeadline : w.now ≤ e.deadline) (hexpires : w.now < e.session.expiresAt) :
    w.cachedLookup token = .ok (some e.session) := by
  have hget : w.redis.get w.now token = some e.session := by
    rw [Redis.get, he, Option.bind_some, if_pos hdeadline]
  rw [World.cachedLookup, hget]
  exact if_neg (not_le.mpr hexpires)

/-- With distinct tokens, an active row is returned. -/
theorem World.lookup_of_row (hnodup : (w.db.sessions.map (·.token)).Nodup) {row : SessionRow}
    (hrow : row ∈ w.db.sessions) {session : Session} (hsession : row.toSession = .ok session)
    (hexpires : w.now < session.expiresAt) : w.lookup row.token = .ok (some session) := by
  have hactive : row.active w.now = true := by
    refine decide_eq_true ?_
    rw [← (SessionRow.toSession_ok hsession).2.2.2.1]
    exact hexpires
  rw [World.lookup_of_mem hnodup hrow hactive, hsession]
  rfl

/-- **A coherent cache** returns what the database returns. -/
theorem Coherent.cachedLookup (hc : Coherent w) (token : SessionToken) :
    w.cachedLookup token = w.lookup token := by
  refine World.cachedLookup_eq fun e he hdeadline hexpires => ?_
  obtain ⟨row, hrow, rfl, hsession⟩ := (hc.entries token e he hdeadline hexpires).resolve_left id
  exact World.lookup_of_row hc.tokens hrow hsession hexpires

/-- The outcome of a lookup in the database. -/
theorem PgSessionStore.exec_findValid_iff {r : Except SessionError (Option Session)} :
    (∃ w', (findValid token).Exec (Env noFault) w r w') ↔ r = w.lookup token := by
  have hx := Prog.exec_eval (p := findValid token) (s := w) (env_answer noFault)
  have hr := (ensures_findValid_lookup.of_exec hx).1
  exact ⟨fun ⟨_, h⟩ => (ensures_findValid_lookup.of_exec h).1, fun h => ⟨_, h ▸ hr ▸ hx⟩⟩

/-- The outcome of a lookup through the cache. -/
theorem CachedSessionStore.exec_findValid_iff {r : Except SessionError (Option Session)} :
    (∃ w', (findValid true token).Exec (Env noFault) w r w') ↔ r = w.cachedLookup token := by
  have hx := Prog.exec_eval (p := findValid true token) (s := w) (env_answer noFault)
  have hr := ensures_findValid_cachedLookup.of_exec hx
  exact ⟨fun ⟨_, h⟩ => ensures_findValid_cachedLookup.of_exec h, fun h => ⟨_, h ▸ hr ▸ hx⟩⟩

/-- The outcomes of the two lookups are the same if their values are. -/
theorem lookups_agree_iff (w : World) (token : SessionToken) :
    (∀ r, (∃ w', (CachedSessionStore.findValid true token).Exec (Env noFault) w r w') ↔
      ∃ w', (PgSessionStore.findValid token).Exec (Env noFault) w r w') ↔
      w.cachedLookup token = w.lookup token := by
  simp only [CachedSessionStore.exec_findValid_iff, PgSessionStore.exec_findValid_iff]
  exact ⟨fun h => (h _).mp rfl, fun h r => by rw [h]⟩

end Lookup

/-! ## Runs -/

/-- The rest of the world acts: time passes, and the cache may drop entries. -/
structure World.Elsewhere (w w' : World) : Prop where
  /-- Time does not run backwards. -/
  now : w.now ≤ w'.now
  /-- The sessions are as they were. -/
  sessions : w'.db.sessions = w.db.sessions
  /-- No entry is added to the cache. -/
  redis : ∀ k, w'.redis k = w.redis k ∨ w'.redis k = none

/-- A run starts with a coherent cache. -/
theorem StoreInit.coherent {h : Timeline World} (hi : StoreInit h) : Coherent h.world :=
  ⟨hi.tokens, fun k e he => by rw [hi.redis k] at he; cases he⟩

/-- Runs of operations other than the revocation of a pair keep the cache coherent. -/
theorem coherent_of_run {tr : List (Timeline World × Option StoreOp)} {h : Timeline World}
    (hrun : Run StoreInit (StoreStep (CachedSessionStore.store true) noFault World.Elsewhere) tr h)
    (hops : ∀ e ∈ tr, ∀ op, e.2 = some op → op.Mirrored) : Coherent h.world := by
  refine hrun.invariant_of_forall (I := fun h => Coherent h.world)
    (C := fun _ l => ∀ op, l = some op → op.Mirrored) (fun h hi => hi.coherent) ?_ hops
  intro h l h' hc hl hstep
  cases hstep with
  | op hx => exact (StoreOp.ensures_coherent (hl _ rfl) hc).of_exec hx
  | other hT =>
    refine hc.keep ⟨hT.now, fun row hrow => hT.sessions ▸ hrow, fun hnodup => ?_, hT.redis⟩
    rw [Timeline.world_push, hT.sessions]
    exact hnodup

/-- The operations of a small run keep the cache coherent. -/
theorem Scenario.coherent_storeAfter {ops : List StoreOp} (hops : ∀ op ∈ ops, op.Mirrored) :
    Coherent (storeAfter (CachedSessionStore.store true) ops).world := by
  obtain ⟨tr, hrun, hlabels⟩ :=
    run_storeAfter (CachedSessionStore.store true) noFault World.Elsewhere ops
  refine coherent_of_run hrun fun e he op hop => hops op ?_
  have hmem : e.2 ∈ tr.map (·.2) := List.mem_map_of_mem he
  rw [hlabels, hop] at hmem
  obtain ⟨op', hop', heq⟩ := List.mem_map.mp hmem
  exact Option.some.inj heq ▸ hop'

/-- **The cache is coherent in sequential runs.**  In a run of operations other than the
revocation of a pair, with a healthy cache, a lookup through the cache has at every moment
between operations the outcome of the lookup in the database, and finds nothing once the
session is revoked or expired.

**Proof sketch.** Every operation keeps `Coherent`: an entry that can still be returned is the
session of its token's row.  What an operation changes is excepted until its `DEL`. -/
theorem cache_coherence {tr : List (Timeline World × Option StoreOp)} {h : Timeline World}
    (hrun : Run StoreInit (StoreStep (CachedSessionStore.store true) noFault World.Elsewhere) tr h)
    (hops : ∀ e ∈ tr, ∀ op, e.2 = some op → op.Mirrored) (token : SessionToken) :
    (∀ r, (∃ w, (CachedSessionStore.findValid true token).Exec (Env noFault) h.world r w) ↔
      ∃ w, (PgSessionStore.findValid token).Exec (Env noFault) h.world r w) ∧
    ((∀ row ∈ h.world.db.sessions, row.token = token → row.active h.world.now = false) →
      ∀ r w, (CachedSessionStore.findValid true token).Exec (Env noFault) h.world r w →
        r = .ok none) := by
  have hc := coherent_of_run hrun hops
  refine ⟨(lookups_agree_iff _ _).mpr (hc.cachedLookup token), fun hrows r w hx => ?_⟩
  have hr := CachedSessionStore.ensures_findValid_cachedLookup.of_exec hx
  rw [hr, hc.cachedLookup token, World.lookup_of_forall hrows]

/-- After a role was changed, a token that had been looked up is looked up again. -/
theorem cache_coherence_role :
    let h := Scenario.storeAfter (CachedSessionStore.store true)
      [.updateMembershipForUser ⟨901⟩ ⟨5, .admin⟩, .findValid ⟨0⟩,
       .addMembership ⟨901⟩ ⟨5, .guest⟩, .createWithKind ⟨901⟩ (seconds 3600) .access none]
    ∀ r, (∃ w, (CachedSessionStore.findValid true ⟨0⟩).Exec (Env noFault) h.world r w) ↔
      ∃ w, (PgSessionStore.findValid ⟨0⟩).Exec (Env noFault) h.world r w := by
  obtain ⟨tr, hrun, hlabels⟩ := Scenario.run_storeAfter (CachedSessionStore.store true) noFault
    World.Elsewhere [.updateMembershipForUser ⟨901⟩ ⟨5, .admin⟩, .findValid ⟨0⟩,
      .addMembership ⟨901⟩ ⟨5, .guest⟩, .createWithKind ⟨901⟩ (seconds 3600) .access none]
  refine (cache_coherence hrun (fun e he op hop => ?_) ⟨0⟩).1
  have hmem : e.2 ∈ tr.map (·.2) := List.mem_map_of_mem he
  rw [hlabels, hop] at hmem
  simp only [List.map_cons, List.map_nil, List.mem_cons, Option.some.injEq, List.not_mem_nil,
    or_false] at hmem
  rcases hmem with rfl | rfl | rfl | rfl <;> trivial

end Klynt
