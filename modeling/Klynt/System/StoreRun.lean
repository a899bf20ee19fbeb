import Klynt.Lib.Timeline
import Klynt.Persistence.SessionFrame
import Klynt.Service.Session

set_option relaxedAutoImplicit false
set_option autoImplicit false

/-!
# Runs of the session store

The operations of the cached store are called one after another while a single clock moves,
between and within the operations.  A run keeps all its moments, so that what the store
returns can be compared with what the database held earlier.  `StoreMove` says once what a
request of the store can do to the sessions and the cache; the timed properties of runs are
read off it.

## Main definitions

* `StoreOp`, `StoreOp.run` — the operations.
* `TimedEnv`, `StoreStep`, `StoreInit` — the runs.
* `StoreMove`, `StoreMoves` — one moment after another.
* `World.Offers` — what the store can answer in a world.

## Main results

* `StoreOp.ensures` — an operation moves as `StoreMove` says.
* `storeMoves_of_run` — a run does, as long as no UUID was drawn twice.
* `CachedSessionStore.ensures_findValid` — a session that is returned was on offer.
-/

namespace Klynt

/-! ## Operations -/

/-- The operations of the session store, and the invalidation of a pair of sessions, which the
session service composes of them. -/
inductive StoreOp where
  /-- `create_with_kind`. -/
  | createWithKind (u : UserId) (expiresAt : Time) (kind : SessionKind) (pairId : Option Uuid)
  /-- `find_valid`. -/
  | findValid (token : SessionToken)
  /-- `revoke`. -/
  | revoke (token : SessionToken)
  /-- `revoke_by_id`. -/
  | revokeById (u : UserId) (id : Uuid)
  /-- `revoke_pair`. -/
  | revokePair (pairId : Uuid) (exceptToken : SessionToken)
  /-- `list_active_by_user`. -/
  | listActiveByUser (u : UserId)
  /-- `update_memberships`. -/
  | updateMemberships (token : SessionToken) (snapshots : List MembershipSnapshot)
  /-- `add_membership`. -/
  | addMembership (u : UserId) (snapshot : MembershipSnapshot)
  /-- `update_membership_for_user`. -/
  | updateMembershipForUser (u : UserId) (snapshot : MembershipSnapshot)
  /-- `remove_membership`. -/
  | removeMembership (u : UserId) (t : TenantId)
  /-- `SessionService::invalidate_pair`. -/
  | invalidatePair (token : SessionToken)

/-- The operation on a store, without its value. -/
def StoreOp.run (store : SessionStore) : StoreOp → Action Unit Unit
  | createWithKind u expiresAt kind pairId =>
    (store.createWithKind u expiresAt kind pairId).forget
  | findValid token => (store.findValid token).forget
  | revoke token => (store.revoke token).forget
  | revokeById u id => (store.revokeById u id).forget
  | revokePair pairId exceptToken => (store.revokePair pairId exceptToken).forget
  | listActiveByUser u => (store.listActiveByUser u).forget
  | updateMemberships token snapshots => (store.updateMemberships token snapshots).forget
  | addMembership u snapshot => (store.addMembership u snapshot).forget
  | updateMembershipForUser u snapshot => (store.updateMembershipForUser u snapshot).forget
  | removeMembership u t => (store.removeMembership u t).forget
  | invalidatePair token => (SessionService.invalidatePair ⟨{}, store⟩ token).forget

/-- Requests on a timeline; the clock may move before each of them. -/
abbrev TimedEnv (F : Req → Prop) : (q : Req) → Timeline World → Ans q → Timeline World → Prop :=
  Timeline.Env World.Later (Env F)

/-! ## Moves -/

/-- What a request of the store can make of the last moment of a timeline. -/
inductive StoreMove (h : Timeline World) : World → Prop
  /-- Nothing is added. -/
  | evolve {w : World} (hw : h.world.Evolves w) : StoreMove h w
  /-- A session of the database is cached, or only an older entry is dropped. -/
  | fill {w : World} {row : SessionRow} {session : Session} (hnow : h.world.now ≤ w.now)
      (hminted : h.world.minted <:+ w.minted) (hsessions : w.db.sessions = h.world.db.sessions)
      (hrow : row ∈ w.db.sessions) (hsession : row.toSession = .ok session)
      (haccess : session.kind.isAccess = true)
      (hredis : ∀ k, w.redis k = h.world.redis k ∨
        k = row.token ∧ w.redis k = some ⟨session, w.now + seconds sessionTtlSeconds⟩) :
      StoreMove h w
  /-- A session is created under a token and an id that were never in use. -/
  | insert {w : World} {row : SessionRow} (hnow : h.world.now ≤ w.now)
      (hminted : h.world.minted <:+ w.minted)
      (hsessions : w.db.sessions = h.world.db.sessions ++ [row]) (hredis : w.redis = h.world.redis)
      (hissued : row.token.inner ∈ w.minted ∧ row.id ∈ w.minted)
      (hfresh : ∀ v ∈ h.moments, ∀ r ∈ v.db.sessions, r.token ≠ row.token ∧ r.id ≠ row.id) :
      StoreMove h w

/-- A move, as a step of timelines. -/
def StoreMoved (h h' : Timeline World) : Prop := ∃ w, StoreMove h w ∧ h' = h.push w

/-- Moves one after another. -/
abbrev StoreMoves : Timeline World → Timeline World → Prop := Timeline.Reach StoreMoved

section Moves

variable {h h' : Timeline World} {w : World}

/-- Time does not run backwards. -/
theorem StoreMove.now_le (hm : StoreMove h w) : h.world.now ≤ w.now := by
  cases hm with
  | evolve hw => exact hw.now
  | fill hnow => exact hnow
  | insert hnow => exact hnow

/-- No UUID is forgotten. -/
theorem StoreMove.minted (hm : StoreMove h w) : h.world.minted <:+ w.minted := by
  cases hm with
  | evolve hw => exact hw.minted
  | fill _ hminted => exact hminted
  | insert _ hminted => exact hminted

/-- **The invariant rule of moves.** -/
theorem StoreMoves.invariant {I : Timeline World → Prop}
    (hI : ∀ h w, I h → StoreMove h w → I (h.push w)) (hm : StoreMoves h h') (h0 : I h) : I h' := by
  induction hm with
  | refl => exact h0
  | tail _ hstep ih =>
    obtain ⟨w, hw, rfl⟩ := hstep
    exact hI _ _ ih hw

/-- Moves keep all moments. -/
theorem StoreMoves.moments (hm : StoreMoves h h') : h.moments <:+ h'.moments :=
  hm.invariant (I := fun h' => h.moments <:+ h'.moments)
    (fun _ w ih _ => ih.trans (List.suffix_cons w _)) List.suffix_rfl

/-- Time does not run backwards along moves. -/
theorem StoreMoves.now_le (hm : StoreMoves h h') : h.world.now ≤ h'.world.now :=
  hm.invariant (I := fun h' => h.world.now ≤ h'.world.now) (fun _ _ ih hw => ih.trans hw.now_le)
    le_rfl

/-- No UUID is forgotten along moves. -/
theorem StoreMoves.minted (hm : StoreMoves h h') : h.world.minted <:+ h'.world.minted :=
  hm.invariant (I := fun h' => h.world.minted <:+ h'.world.minted)
    (fun _ _ ih hw => ih.trans hw.minted) List.suffix_rfl

/-- A quiet request is a move. -/
theorem Req.Quiet.storeMoved {F : Req → Prop} {q : Req} (hq : q.Quiet) {a : Ans q}
    (he : TimedEnv F q h a h') : StoreMoved h h' := by
  obtain ⟨w, w', hlater, hE, rfl⟩ := he
  exact ⟨w', .evolve (hlater.evolves.trans (hq.evolves hE)), rfl⟩

/-- A program of quiet requests moves, and adds no session and no cache entry. -/
theorem ensures_quiet {F : Req → Prop} {ε α : Type} {p : Action ε α} (hp : p.All Req.Quiet) :
    p.Ensures (TimedEnv F) (fun _ h' => StoreMoves h h' ∧ h.world.Evolves h'.world) h := by
  refine Prog.ensures_of_all (R := fun h h' => StoreMoves h h' ∧ h.world.Evolves h'.world)
    (fun h => ⟨.refl, .refl _⟩) (fun h₁ h₂ => ⟨h₁.1.trans h₂.1, h₁.2.trans h₂.2⟩) ?_ hp
    fun _ _ hm => hm
  intro q h a h' hq he
  have hmove := hq.storeMoved he
  obtain ⟨w, w', hlater, hE, rfl⟩ := he
  exact ⟨.single hmove, hlater.evolves.trans (hq.evolves hE)⟩

/-- A moment of an extended timeline is a moment before it or one of the new ones. -/
theorem StoreMoves.world_mem (hm : StoreMoves h h') : h.world ∈ h'.moments :=
  hm.moments.subset h.world_mem

end Moves

/-! ## Looking a session up -/

/-- The store can answer a token with a session: from a live cache entry, or from a row of the
database. -/
def World.Offers (w : World) (token : SessionToken) (session : Session) : Prop :=
  (∃ e, w.redis token = some e ∧ w.now ≤ e.deadline ∧ e.session = session) ∨
    ∃ row ∈ w.db.sessions, row.token = token ∧ row.toSession = .ok session

/-- A lookup from `h` to `h'` returned a session only if it was on offer at a moment in
between. -/
def Looked (h : Timeline World) (token : SessionToken) (r : Except SessionError (Option Session))
    (h' : Timeline World) : Prop :=
  StoreMoves h h' ∧ ∀ session, r = .ok (some session) →
    ∃ h₁, StoreMoves h h₁ ∧ h₁.world.Offers token session ∧ StoreMoves h₁ h'

section Lookup

variable {F : Req → Prop} {h h' : Timeline World} {connected : Bool} {token : SessionToken}

/-- Looking up after some moves. -/
theorem Looked.after {r : Except SessionError (Option Session)} {h₀ : Timeline World}
    (h₀h : StoreMoves h₀ h) (hl : Looked h token r h') : Looked h₀ token r h' := by
  refine ⟨h₀h.trans hl.1, fun session hr => ?_⟩
  obtain ⟨h₁, hh₁, hoffers, hrest⟩ := hl.2 session hr
  exact ⟨h₁, h₀h.trans hh₁, hoffers, hrest⟩

namespace CachedSessionStore

/-- A session read from the cache was on offer there. -/
theorem ensures_readCache :
    (readCache connected token).Ensures (TimedEnv F) (fun r h' => Looked h token r h') h := by
  refine Prog.wp_bind.mpr (Prog.wp_rejectIf.mpr ⟨fun _ => ?_, fun _ => ⟨.refl, fun _ hr => by cases hr⟩⟩)
  refine Prog.wp_bind.mpr (Prog.wp_mapErr.mpr (Prog.ensures_ask.mpr fun a h₁ he => ?_))
  have hmove := Req.Quiet.storeMoved (q := .redis (.get token)) trivial he
  obtain ⟨w, w', hlater, hE, rfl⟩ := he
  cases a with
  | error e => exact ⟨.single hmove, fun _ hr => by cases hr⟩
  | ok found =>
    obtain ⟨hfound, rfl⟩ | ⟨-, ⟨m, hm⟩, -⟩ := hE
    swap
    · cases hm
    cases found with
    | none => exact Prog.wp_pure.mpr ⟨.single hmove, fun _ hr => by cases hr⟩
    | some session =>
      refine Prog.wp_bind.mpr (Prog.ensures_ask.mpr fun t h₂ he₂ => ?_)
      have hmove₂ := Req.Quiet.storeMoved (q := .clock) trivial he₂
      dsimp only
      split
      · exact Prog.wp_pure.mpr ⟨.tail (.single hmove) hmove₂, fun _ hr => by cases hr⟩
      · refine Prog.wp_pure.mpr ⟨.tail (.single hmove) hmove₂, fun s hr => ?_⟩
        obtain rfl : session = s := Option.some.inj (Except.ok.inj hr)
        refine ⟨_, .single hmove, .inl ?_, .single hmove₂⟩
        have hget : w.redis.get w.now token = some session := (Except.ok.inj hfound).symm
        obtain ⟨e, he, hlive⟩ := Option.bind_eq_some_iff.mp hget
        split at hlive
        · rename_i hdeadline
          exact ⟨e, he, hdeadline, Option.some.inj hlive⟩
        · cases hlive

end CachedSessionStore

/-- A session read from the database is on offer. -/
theorem PgSessionStore.ensures_findValid :
    (findValid token).Ensures (TimedEnv F) (fun r h' => StoreMoved h h' ∧
      ∀ session, r = .ok (some session) → ∃ row ∈ h'.world.db.sessions,
        row.token = token ∧ row.toSession = .ok session) h := by
  refine Prog.wp_bind.mpr (Prog.wp_mapErr.mpr (Prog.ensures_ask.mpr fun a h₁ he => ?_))
  have hmove := Req.Quiet.storeMoved (q := .query (.activeSession token)) trivial he
  obtain ⟨w, w', hlater, ⟨rfl, ha⟩, rfl⟩ := he
  cases a with
  | error e => exact ⟨hmove, fun _ hr => by cases hr⟩
  | ok found =>
    obtain hfound | ⟨-, m, hm⟩ := ha
    swap
    · cases hm
    cases found with
    | none => exact Prog.wp_pure.mpr ⟨hmove, fun _ hr => by cases hr⟩
    | some row =>
      refine Prog.wp_done.mpr ⟨hmove, fun session hr => ?_⟩
      have hfind := (Except.ok.inj hfound).symm
      have hkey := List.find?_some hfind
      refine ⟨row, List.mem_of_find?_eq_some hfind, ?_, ?_⟩
      · have hboth : row.token = token ∧ row.active w'.now = true := by simpa using hkey
        exact hboth.1
      · cases hrow : row.toSession with
        | error e => rw [hrow] at hr; cases hr
        | ok s => rw [hrow] at hr; exact congrArg _ (Option.some.inj (Except.ok.inj hr))

namespace CachedSessionStore

/-- Caching a session of the database is a move. -/
theorem ensures_writeCache {row : SessionRow} {session : Session}
    (hrow : row ∈ h.world.db.sessions) (htoken : row.token = token)
    (hsession : row.toSession = .ok session) (haccess : session.kind.isAccess = true) :
    (writeCache connected token session).Ensures (TimedEnv F) (fun _ h' => StoreMoves h h') h := by
  refine Prog.wp_bind.mpr (Prog.wp_rejectIf.mpr ⟨fun _ => ?_, fun _ => .refl⟩)
  refine Prog.wp_mapErr.mpr (Prog.ensures_ask.mpr fun a h₁ he => ?_)
  obtain ⟨w, w', ⟨t, ht, rfl⟩, hE, rfl⟩ := he
  have hfilled : ∀ k, (Command.setex token sessionTtlSeconds session).effect t h.world.redis k =
      h.world.redis k ∨ k = row.token ∧
        (Command.setex token sessionTtlSeconds session).effect t h.world.redis k =
          some ⟨session, t + seconds sessionTtlSeconds⟩ := by
    intro k
    by_cases hk : k = token
    · subst hk; exact .inr ⟨htoken.symm, Function.update_self _ _ _⟩
    · exact .inl (Function.update_of_ne hk _ _)
  refine .single ⟨w', ?_, rfl⟩
  obtain ⟨-, rfl⟩ | ⟨-, -, redis, rfl, hredis⟩ := hE
  · exact .fill ht List.suffix_rfl rfl hrow hsession haccess hfilled
  · refine .fill ht List.suffix_rfl rfl hrow hsession haccess fun k => ?_
    obtain hk | hk := hredis k
    · exact .inl hk
    · change redis k = _ ∨ _ ∧ redis k = _
      rw [hk]; exact hfilled k

/-- **What a lookup returns was on offer** at a moment of the lookup. -/
theorem ensures_findValid :
    (findValid connected token).Ensures (TimedEnv F) (fun r h' => Looked h token r h') h := by
  have hdatabase : ∀ h₁, StoreMoves h h₁ →
      (PgSessionStore.findValid token >>= fillCache connected token).Ensures (TimedEnv F)
        (fun r h' => Looked h token r h') h₁ := by
    intro h₁ hh₁
    refine Prog.wp_bind.mpr (PgSessionStore.ensures_findValid.mono ?_)
    rintro r h₂ ⟨hmove, hfound⟩
    have hh₂ : StoreMoves h h₂ := hh₁.tail hmove
    cases r with
    | error e => exact ⟨hh₂, fun _ hr => by cases hr⟩
    | ok session =>
      cases session with
      | none => exact Prog.wp_pure.mpr ⟨hh₂, fun _ hr => by cases hr⟩
      | some s =>
        obtain ⟨row, hrow, htoken, hsession⟩ := hfound s rfl
        have hdone : ∀ h', StoreMoves h₂ h' → Looked h token (.ok (some s)) h' := by
          refine fun h' hh' => ⟨hh₂.trans hh', fun session hr => ?_⟩
          obtain rfl := Option.some.inj (Except.ok.inj hr)
          exact ⟨h₂, hh₂, .inr ⟨row, hrow, htoken, hsession⟩, hh'⟩
        dsimp only [fillCache]
        split
        · rename_i haccess
          refine Prog.wp_bind.mpr (Prog.wp_attempt.mpr ?_)
          exact (ensures_writeCache hrow htoken hsession haccess).mono fun _ h' hh' =>
            Prog.wp_pure.mpr (hdone h' hh')
        · exact Prog.wp_pure.mpr (hdone h₂ .refl)
  refine Prog.wp_bind.mpr (Prog.wp_attempt.mpr (ensures_readCache.mono ?_))
  intro r h₁ hl
  cases r with
  | error e => exact hdatabase h₁ hl.1
  | ok found =>
    cases found with
    | none => exact hdatabase h₁ hl.1
    | some s => exact Prog.wp_pure.mpr hl

end CachedSessionStore

end Lookup

/-! ## Creating a session -/

/-- Every session there has been has a token and an id that were drawn. -/
def Issued (h : Timeline World) : Prop :=
  ∀ v ∈ h.moments, ∀ row ∈ v.db.sessions,
    row.token.inner ∈ h.world.minted ∧ row.id ∈ h.world.minted

section Create

variable {F : Req → Prop} {h h' : Timeline World} {connected : Bool} {u : UserId}
  {expiresAt : Time} {kind : SessionKind} {pairId : Option Uuid}

/-- Sessions keep the tokens and ids they were given. -/
theorem Issued.push (hi : Issued h) {w : World} (hm : StoreMove h w) : Issued (h.push w) := by
  intro v hv row hrow
  have hold : ∀ v ∈ h.moments, ∀ row ∈ v.db.sessions,
      row.token.inner ∈ w.minted ∧ row.id ∈ w.minted := fun v hv row hrow =>
    ⟨hm.minted.subset (hi v hv row hrow).1, hm.minted.subset (hi v hv row hrow).2⟩
  rcases List.mem_cons.mp hv with rfl | hv
  · cases hm with
    | evolve hw =>
      obtain ⟨row₀, hrow₀, _, rfl⟩ := hw.sessions row hrow
      exact hold _ h.world_mem row₀ hrow₀
    | fill _ _ hsessions => exact hold _ h.world_mem row (hsessions ▸ hrow)
    | insert _ _ hsessions _ hissued =>
      rw [hsessions] at hrow
      rcases List.mem_append.mp hrow with hrow | hrow
      · exact hold _ h.world_mem row hrow
      · obtain rfl := List.mem_singleton.mp hrow
        exact hissued
  · exact hold v hv row hrow

/-- Drawing a UUID. -/
theorem TimedEnv.of_uuid {a : Uuid} (he : TimedEnv F .uuid h a h') :
    StoreMoved h h' ∧ h'.world.minted = a :: h.world.minted ∧
      h'.world.db.sessions = h.world.db.sessions ∧ h'.moments = h'.world :: h.moments := by
  have hmove := Req.Quiet.storeMoved (q := .uuid) trivial he
  obtain ⟨w, w', ⟨t, ht, rfl⟩, rfl, rfl⟩ := he
  exact ⟨hmove, rfl, rfl, rfl⟩

/-- A session under a token and an id that were just drawn is new. -/
theorem storeMove_insert (hi : Issued h) {h₂ : Timeline World} {a b : Uuid} {w : World}
    {row : SessionRow} (hdrawn : h₂.world.minted = b :: a :: h.world.minted)
    (hmoments : ∀ v ∈ h₂.moments, v ∈ h.moments ∨ v.db.sessions = h.world.db.sessions)
    (hnow : h₂.world.now ≤ w.now) (hminted : w.minted = h₂.world.minted)
    (hsessions : w.db.sessions = h₂.world.db.sessions ++ [row])
    (hredis : w.redis = h₂.world.redis) (htoken : row.token = ⟨a⟩) (hid : row.id = b)
    (hnodup : w.minted.Nodup) : StoreMove h₂ w := by
  rw [hminted, hdrawn] at hnodup
  have hb : b ∉ a :: h.world.minted := (List.nodup_cons.mp hnodup).1
  have ha : a ∉ h.world.minted := (List.nodup_cons.mp (List.nodup_cons.mp hnodup).2).1
  have hold : ∀ v ∈ h.moments, ∀ r ∈ v.db.sessions, r.token ≠ row.token ∧ r.id ≠ row.id := by
    intro v hv r hr
    obtain ⟨hrtoken, hrid⟩ := hi v hv r hr
    refine ⟨fun heq => ha ?_, fun heq => hb ?_⟩
    · rw [heq, htoken] at hrtoken; exact hrtoken
    · rw [heq, hid] at hrid; exact List.mem_cons_of_mem _ hrid
  refine .insert hnow (hminted ▸ List.suffix_rfl) hsessions hredis ⟨?_, ?_⟩ fun v hv r hr => ?_
  · rw [hminted, hdrawn, htoken]; exact List.mem_cons_of_mem _ List.mem_cons_self
  · rw [hminted, hdrawn, hid]; exact List.mem_cons_self
  · rcases hmoments v hv with hv | hsame
    · exact hold v hv r hr
    · exact hold _ h.world_mem r (hsame ▸ hr)

/-- Sessions keep the tokens and ids they were given along moves. -/
theorem StoreMoves.issued (hm : StoreMoves h h') (hi : Issued h) : Issued h' :=
  hm.invariant (fun _ _ hi hw => hi.push hw) hi

/-- **A created session** has a token and an id that were never in use, if no UUID is drawn
twice. -/
theorem PgSessionStore.ensures_createWithKind :
    (createWithKind u expiresAt kind pairId).Ensures (TimedEnv F)
      (fun r h' => (Issued h → h'.world.minted.Nodup → StoreMoves h h') ∧
        ∀ token, r = .ok token → ∃ row ∈ h'.world.db.sessions, row.token = token ∧
          row.toSession =
            .ok { userId := u, expiresAt, kind, pairId, tenantMemberships := [] }) h := by
  refine Prog.wp_bind.mpr (Prog.ensures_ask.mpr fun a h₁ he₁ => ?_)
  refine Prog.wp_bind.mpr (Prog.ensures_ask.mpr fun b h₂ he₂ => ?_)
  refine Prog.wp_bind.mpr (Prog.wp_mapErr.mpr (Prog.ensures_ask.mpr fun r h₃ he₃ => ?_))
  obtain ⟨hmove₁, hminted₁, hsessions₁, hmoments₁⟩ := TimedEnv.of_uuid he₁
  obtain ⟨hmove₂, hminted₂, hsessions₂, hmoments₂⟩ := TimedEnv.of_uuid he₂
  have hh₂ : StoreMoves h h₂ := .tail (.single hmove₁) hmove₂
  have hdrawn : h₂.world.minted = b :: a :: h.world.minted :=
    hminted₂.trans (congrArg _ hminted₁)
  have hmoments : ∀ v ∈ h₂.moments, v ∈ h.moments ∨ v.db.sessions = h.world.db.sessions := by
    intro v hv
    rw [hmoments₂, hmoments₁] at hv
    rcases List.mem_cons.mp hv with rfl | hv
    · exact .inr (hsessions₂.trans hsessions₁)
    · rcases List.mem_cons.mp hv with rfl | hv
      · exact .inr hsessions₁
      · exact .inl hv
  clear he₁ he₂
  obtain ⟨w, w', hlater, hE, rfl⟩ := he₃
  have hfailed : w' = w → StoreMoves h (h₂.push w') := by
    rintro rfl; exact hh₂.tail ⟨w', .evolve hlater.evolves, rfl⟩
  obtain ⟨t, ht, rfl⟩ := hlater
  obtain ⟨_, db, hx, rfl, rfl⟩ | ⟨e, -, rfl, hw⟩ | ⟨-, ⟨m, rfl⟩, hw⟩ := hE
  · obtain ⟨-, -, -, rfl⟩ := insertSession_ok hx
    refine Prog.wp_pure.mpr ⟨fun hi hnodup => ?_, fun token hr => ?_⟩
    · refine hh₂.tail ⟨_, ?_, rfl⟩
      exact storeMove_insert hi hdrawn hmoments ht rfl rfl rfl rfl rfl hnodup
    · obtain rfl := Except.ok.inj hr
      refine ⟨_, List.mem_append_right _ List.mem_cons_self, rfl, ?_⟩
      simp [SessionRow.toSession, MembershipSnapshot.decode, Json.emptyArray, bind, Except.bind,
        Except.mapError, pure, Except.pure]
  · exact ⟨fun _ _ => hfailed hw, fun _ hr => by cases hr⟩
  · exact ⟨fun _ _ => hfailed hw, fun _ hr => by cases hr⟩

/-- A created session may also be cached. -/
theorem CachedSessionStore.ensures_createWithKind (hi : Issued h) :
    (createWithKind connected u expiresAt kind pairId).Ensures (TimedEnv F)
      (fun _ h' => h'.world.minted.Nodup → StoreMoves h h') h := by
  refine Prog.wp_bind.mpr (PgSessionStore.ensures_createWithKind.mono ?_)
  rintro r h₁ ⟨hmoves, hcreated⟩
  replace hmoves := hmoves hi
  cases r with
  | error e => exact hmoves
  | ok token =>
    obtain ⟨row, hrow, htoken, hsession⟩ := hcreated token rfl
    dsimp only
    split
    · rename_i haccess
      refine Prog.wp_bind.mpr (Prog.wp_attempt.mpr ?_)
      refine (ensures_writeCache hrow htoken hsession haccess).mono fun _ h' hh' => ?_
      refine Prog.wp_pure.mpr fun hnodup => (hmoves ?_).trans hh'
      exact hnodup.sublist hh'.minted.sublist
    · exact Prog.wp_pure.mpr hmoves

end Create

/-! ## Operations move -/

section Op

variable {F : Req → Prop} {h h' : Timeline World} {connected : Bool}

namespace CachedSessionStore

/-- Revoking is quiet. -/
theorem all_revoke (token : SessionToken) : (revoke connected token).All Req.Quiet :=
  (all_execute (u := .deleteSession token) trivial).mapErr.bind fun _ =>
    (all_invalidateCache _ _ trivial).attempt.bind fun _ => trivial

/-- Revoking by id is quiet. -/
theorem all_revokeById (u : UserId) (id : Uuid) : (revokeById connected u id).All Req.Quiet :=
  ((all_select (q := .activeTokenById u id) trivial).mapErr.bind fun _ =>
    Prog.all_ofOption _ _).bind fun token => all_revoke token

/-- Replacing snapshots is quiet. -/
theorem all_updateMemberships (token : SessionToken) (snapshots : List MembershipSnapshot) :
    (updateMemberships connected token snapshots).All Req.Quiet :=
  (all_execute (u := .setMemberships token snapshots) trivial).mapErr.bind fun _ =>
    (all_invalidateCache _ _ trivial).attempt.bind fun _ => trivial

/-- A quiet statement after which the tokens of a user are invalidated is quiet. -/
theorem all_editActive {p : Action SessionError Unit} (hp : p.All Req.Quiet) (u : UserId) :
    (p >>= fun _ => invalidateActiveTokens connected u).All Req.Quiet :=
  hp.bind fun _ => all_invalidateActiveTokens _ _ trivial fun _ => trivial

end CachedSessionStore

/-- Invalidating a pair is a lookup and two quiet operations. -/
theorem ensures_invalidatePair {config : SessionConfig} {token : SessionToken} :
    (SessionService.invalidatePair ⟨config, CachedSessionStore.store connected⟩ token).Ensures
      (TimedEnv F) (fun _ h' => StoreMoves h h') h := by
  refine Prog.wp_bind.mpr (Prog.wp_bind.mpr (Prog.wp_mapErr.mpr ?_))
  refine CachedSessionStore.ensures_findValid.mono fun r h₁ hl => ?_
  cases r with
  | error e => exact hl.1
  | ok found =>
    refine Prog.wp_ofOption.mpr ⟨fun session _ => ?_, fun _ => hl.1⟩
    refine Prog.wp.mono (ensures_quiet ?_) fun _ _ hm => hl.1.trans hm.1
    refine (CachedSessionStore.all_revoke token).mapErr.bind fun _ => ?_
    cases session.pairId with
    | none => exact Prog.all_pure _
    | some pairId => exact (all_execute (u := .deletePair pairId token) trivial).mapErr.mapErr

/-- **An operation moves** as `StoreMove` says, if no UUID is drawn twice. -/
theorem StoreOp.ensures (op : StoreOp) (hi : Issued h) :
    (op.run (CachedSessionStore.store connected)).Ensures (TimedEnv F)
      (fun _ h' => h'.world.minted.Nodup → StoreMoves h h') h := by
  have hquiet : ∀ {α : Type} {p : Action SessionError α}, p.All Req.Quiet →
      p.forget.Ensures (TimedEnv F) (fun _ h' => h'.world.minted.Nodup → StoreMoves h h') h :=
    fun hp => Prog.wp_forget.mpr ((ensures_quiet hp).mono fun _ _ hm _ => hm.1)
  cases op with
  | createWithKind u expiresAt kind pairId =>
    exact Prog.wp_forget.mpr (CachedSessionStore.ensures_createWithKind hi)
  | findValid token =>
    exact Prog.wp_forget.mpr (CachedSessionStore.ensures_findValid.mono fun _ _ hl _ => hl.1)
  | revoke token => exact hquiet (CachedSessionStore.all_revoke token)
  | revokeById u id => exact hquiet (CachedSessionStore.all_revokeById u id)
  | revokePair pairId exceptToken =>
    exact hquiet (all_execute (u := .deletePair pairId exceptToken) trivial).mapErr
  | listActiveByUser u =>
    exact hquiet ((all_select (q := .activeSessions u) trivial).mapErr.bind fun _ => trivial)
  | updateMemberships token snapshots =>
    exact hquiet (CachedSessionStore.all_updateMemberships token snapshots)
  | addMembership u snapshot =>
    exact hquiet (CachedSessionStore.all_editActive
      (all_execute (u := .addSnapshot u snapshot) trivial).mapErr u)
  | updateMembershipForUser u snapshot =>
    exact hquiet (CachedSessionStore.all_editActive
      (all_execute (u := .updateSnapshot u snapshot) trivial).mapErr u)
  | removeMembership u t =>
    exact hquiet (CachedSessionStore.all_editActive
      (all_execute (u := .removeSnapshot u t) trivial).mapErr u)
  | invalidatePair token =>
    exact Prog.wp_forget.mpr (ensures_invalidatePair.mono fun _ _ hm _ => hm)

end Op

/-! ## Runs -/

/-- The steps of a run: an operation, or a move of the rest of the world. -/
inductive StoreStep (store : SessionStore) (F : Req → Prop) (T : World → World → Prop) :
    Timeline World → Option StoreOp → Timeline World → Prop
  /-- An operation. -/
  | op {op : StoreOp} {r : Except Unit Unit} {h h' : Timeline World}
      (hx : (op.run store).Exec (TimedEnv F) h r h') : StoreStep store F T h (some op) h'
  /-- The rest of the world. -/
  | other {h : Timeline World} {w : World} (hT : T h.world w) :
      StoreStep store F T h none (h.push w)

/-- Where a run starts: the cache is empty, and the sessions have distinct tokens and ids. -/
structure StoreInit (h : Timeline World) : Prop where
  /-- Nothing is remembered. -/
  past : h.past = []
  /-- The cache is empty. -/
  redis : ∀ k, h.world.redis k = none
  /-- Tokens are distinct. -/
  tokens : (h.world.db.sessions.map (·.token)).Nodup
  /-- Ids are distinct. -/
  ids : (h.world.db.sessions.map (·.id)).Nodup
  /-- Tokens and ids were drawn. -/
  issued : ∀ row ∈ h.world.db.sessions,
    row.token.inner ∈ h.world.minted ∧ row.id ∈ h.world.minted

/-- A run starts with sessions whose tokens and ids were drawn. -/
theorem StoreInit.toIssued {h : Timeline World} (hinit : StoreInit h) : Issued h := by
  intro v hv
  rw [Timeline.moments, hinit.past] at hv
  obtain rfl := List.mem_singleton.mp hv
  exact hinit.issued

/-- No program forgets a UUID. -/
theorem minted_of_exec {F : Req → Prop} {ε α : Type} {p : Action ε α} {r : Except ε α}
    {h h' : Timeline World} (hx : p.Exec (TimedEnv F) h r h') :
    h.world.minted <:+ h'.world.minted := by
  have hall : p.All fun _ => True := Prog.all_true p
  refine hx.rel (R := fun h h' : Timeline World => h.world.minted <:+ h'.world.minted)
    (fun _ => List.suffix_rfl) (fun h₁ h₂ => h₁.trans h₂) ?_ hall
  rintro q h a _ - ⟨w, w', hlater, hE, rfl⟩
  exact hlater.evolves.minted.trans hE.minted

/-- No run forgets a UUID. -/
theorem minted_of_run {store : SessionStore} {F : Req → Prop} {h₀ h : Timeline World}
    {tr : List (Timeline World × Option StoreOp)}
    (hr : Run (· = h₀) (StoreStep store F World.Evolves) tr h) :
    h₀.world.minted <:+ h.world.minted :=
  hr.invariant (I := fun h => h₀.world.minted <:+ h.world.minted)
    (fun _ hh => hh ▸ List.suffix_rfl) fun _ _ _ ih hstep => by
      cases hstep with
      | op hx => exact ih.trans (minted_of_exec hx)
      | other hT => exact ih.trans hT.minted

/-- **Runs move** as `StoreMove` says, if no UUID is drawn twice. -/
theorem storeMoves_of_run {connected : Bool} {F : Req → Prop} {init : Timeline World → Prop}
    (hinit : ∀ h, init h → Issued h) {tr : List (Timeline World × Option StoreOp)}
    {h : Timeline World}
    (hr : Run init (StoreStep (CachedSessionStore.store connected) F World.Evolves) tr h)
    (hnodup : h.world.minted.Nodup) : ∃ h₀, init h₀ ∧ StoreMoves h₀ h ∧ Issued h := by
  induction hr with
  | start hi => exact ⟨_, hi, .refl, hinit _ hi⟩
  | @snoc tr h h' l _ hstep ih =>
    cases hstep with
    | other hT =>
      obtain ⟨h₀, h0, hmoves, hi⟩ := ih (hnodup.sublist hT.minted.sublist)
      exact ⟨h₀, h0, hmoves.tail ⟨_, .evolve hT, rfl⟩, hi.push (.evolve hT)⟩
    | @op op r h h' hx =>
      obtain ⟨h₀, h0, hmoves, hi⟩ := ih (hnodup.sublist (minted_of_exec hx).sublist)
      have hop : StoreMoves h h' := (StoreOp.ensures op hi).of_exec hx hnodup
      exact ⟨h₀, h0, hmoves.trans hop, hop.issued hi⟩

/-! ## A small run -/

namespace Scenario

/-- The moments after some operations, latest first, run without failure. -/
def storeAfter (store : SessionStore) : List StoreOp → Timeline World
  | [] => ⟨world, []⟩
  | op :: earlier =>
    ((op.run store).eval (Timeline.answer World.answer) (storeAfter store earlier)).2

/-- What is computed on a timeline is a run. -/
theorem exec_timed {ε α : Type} (p : Action ε α) (F : Req → Prop) (h : Timeline World) :
    p.Exec (TimedEnv F) h (p.eval (Timeline.answer World.answer) h).1
      (p.eval (Timeline.answer World.answer) h).2 :=
  Prog.exec_eval (Timeline.env_answer World.Later.refl (env_answer F))

/-- What is computed without an error is a run that returns. -/
theorem exec_timed_ok {ε : Type} {p : Action ε Unit} {h : Timeline World}
    (hok : (p.eval (Timeline.answer World.answer) h).1.isOk = true) (F : Req → Prop) :
    p.Exec (TimedEnv F) h (.ok ()) (p.eval (Timeline.answer World.answer) h).2 := by
  have hx := exec_timed p F h
  cases hr : (p.eval (Timeline.answer World.answer) h).1 with
  | ok u => rwa [hr] at hx
  | error e => rw [hr] at hok; cases hok

/-- Such operations are a run. -/
theorem run_storeAfter (store : SessionStore) (F : Req → Prop) (T : World → World → Prop)
    (ops : List StoreOp) : ∃ tr, Run StoreInit (StoreStep store F T) tr (storeAfter store ops) ∧
      tr.map (·.2) = ops.map some := by
  induction ops with
  | nil =>
    refine ⟨[], .start ⟨rfl, fun _ => rfl, List.nodup_nil, List.nodup_nil, ?_⟩, rfl⟩
    intro row hrow
    cases hrow
  | cons op earlier ih =>
    obtain ⟨tr, hr, hlabels⟩ := ih
    refine ⟨_, hr.snoc (.op (exec_timed (op.run store) F _)), ?_⟩
    rw [List.map_cons, List.map_cons, hlabels]

end Scenario

end Klynt
