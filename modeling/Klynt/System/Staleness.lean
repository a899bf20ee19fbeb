import Klynt.Lib.Run
import Klynt.System.StoreRun

set_option relaxedAutoImplicit false
set_option autoImplicit false

/-!
# How long the cache can be behind the database

The cache is never told about a session that is gone, or whose snapshots changed, if its
connection fails.  What bounds the damage is that an entry is only written from a row of the
database, that its time-to-live starts then, and that a hit does not extend it.

## Main definitions

* `Sound` — the invariant of runs: every cache entry copies a row of the moment its
  time-to-live started.
* `Gone` — a token without a row, and what is known of its cache entry.
* `Refused` — no lookup returns a session.

## Main results

* `Gone.refused` — a token that is gone is refused once its cache entry is too old.
* `bounded_staleness` — after a revocation a token is refused once 900 seconds have passed, and
  what a lookup returns was in the database at most 900 seconds earlier.
-/

namespace Klynt

/-! ## The invariant -/

/-- A row the database has held at some moment. -/
def Known (h : Timeline World) (row : SessionRow) : Prop := ∃ v ∈ h.moments, row ∈ v.db.sessions

/-- Rows of one token have the same kind and pair, and rows of one id have the same token. -/
def SessionRow.Agree (row row' : SessionRow) : Prop :=
  (row.token = row'.token → row.kind = row'.kind ∧ row.pairId = row'.pairId) ∧
    (row.id = row'.id → row.token = row'.token)

/-- A row agrees with itself. -/
theorem SessionRow.Agree.refl (row : SessionRow) : row.Agree row :=
  ⟨fun _ => ⟨rfl, rfl⟩, fun _ => rfl⟩

/-- Agreement is symmetric. -/
theorem SessionRow.Agree.symm {row row' : SessionRow} (h : row.Agree row') : row'.Agree row :=
  ⟨fun ht => ⟨(h.1 ht.symm).1.symm, (h.1 ht.symm).2.symm⟩, fun hid => (h.2 hid.symm).symm⟩

/-- A cache entry under a token copies a row of the moment its time-to-live started. -/
def CacheEntry.Copied (e : CacheEntry) (h : Timeline World) (k : SessionToken) : Prop :=
  ∃ v ∈ h.moments, v.now + seconds sessionTtlSeconds = e.deadline ∧
    ∃ row ∈ v.db.sessions, row.token = k ∧ row.toSession = .ok e.session

/-- The invariant of runs. -/
structure Sound (h : Timeline World) : Prop where
  /-- The present is the latest moment. -/
  times : ∀ v ∈ h.moments, v.now ≤ h.world.now
  /-- A token keeps its kind and its pair, and an id its token. -/
  agree : ∀ row row', Known h row → Known h row' → row.Agree row'
  /-- Only tokens that authorise requests are cached. -/
  access : ∀ k e, h.world.redis k = some e → e.session.kind.isAccess = true
  /-- Every cache entry copies a row. -/
  copied : ∀ k e, h.world.redis k = some e → e.Copied h k

section Sound

variable {h h' : Timeline World} {w : World} {k : SessionToken}

/-- The rows after a move were known but for their snapshots, except for a new one. -/
theorem StoreMove.rows (hm : StoreMove h w) : ∃ new : Option SessionRow,
    (∀ row ∈ w.db.sessions, (∃ row₀ ∈ h.world.db.sessions,
      ∃ column, row = { row₀ with tenantMemberships := column }) ∨ new = some row) ∧
    ∀ row, new = some row → ∀ r, Known h r → r.token ≠ row.token ∧ r.id ≠ row.id := by
  cases hm with
  | evolve hw => exact ⟨none, fun row hrow => .inl (hw.sessions row hrow), fun _ h => by cases h⟩
  | fill _ _ hsessions =>
    exact ⟨none, fun row hrow => .inl ⟨row, hsessions ▸ hrow, _, rfl⟩, fun _ h => by cases h⟩
  | @insert row _ _ hsessions _ _ hfresh =>
    refine ⟨some row, fun r hr => ?_, fun r hr r' hr' => ?_⟩
    · rw [hsessions] at hr
      rcases List.mem_append.mp hr with hr | hr
      · exact .inl ⟨r, hr, _, rfl⟩
      · exact .inr (congrArg some (List.mem_singleton.mp hr).symm)
    · obtain rfl := Option.some.inj hr
      obtain ⟨v, hv, hrow⟩ := hr'
      exact hfresh v hv r' hrow

/-- Known rows agree after a move. -/
theorem Sound.agree_push (hs : Sound h) (hm : StoreMove h w) :
    ∀ row row', Known (h.push w) row → Known (h.push w) row' → row.Agree row' := by
  obtain ⟨new, hrows, hnew⟩ := hm.rows
  -- a known row is an old one, up to its snapshots, or the new one
  have hcases : ∀ row, Known (h.push w) row → (∃ row₀, Known h row₀ ∧
      ∃ column, row = { row₀ with tenantMemberships := column }) ∨ new = some row := by
    rintro row ⟨v, hv, hrow⟩
    rcases List.mem_cons.mp hv with rfl | hv
    · rcases hrows row hrow with ⟨row₀, hrow₀, hcolumn⟩ | hr
      · exact .inl ⟨row₀, ⟨_, h.world_mem, hrow₀⟩, hcolumn⟩
      · exact .inr hr
    · exact .inl ⟨row, ⟨v, hv, hrow⟩, _, rfl⟩
  have hfresh : ∀ row row', new = some row → Known h row' → row.Agree row' := by
    intro row row' hr hk
    obtain ⟨htoken, hid⟩ := hnew row hr row' hk
    exact ⟨fun ht => absurd ht.symm htoken, fun hi => absurd hi.symm hid⟩
  intro row row' hrow hrow'
  rcases hcases row hrow with ⟨row₀, hk, _, rfl⟩ | hr <;>
    rcases hcases row' hrow' with ⟨row₀', hk', _, rfl⟩ | hr'
  · exact hs.agree row₀ row₀' hk hk'
  · exact (hfresh row' row₀ hr' hk).symm
  · exact hfresh row row₀' hr hk'
  · obtain rfl := Option.some.inj (hr.symm.trans hr')
    exact .refl row

/-- A copy stays one. -/
theorem CacheEntry.Copied.push {e : CacheEntry} (hc : e.Copied h k) : e.Copied (h.push w) k := by
  obtain ⟨v, hv, hrow⟩ := hc
  exact ⟨v, List.mem_cons_of_mem _ hv, hrow⟩

/-- The entries after a move were there before, or the move has just copied a row. -/
theorem Sound.entry_push (hs : Sound h) (hm : StoreMove h w) {e : CacheEntry}
    (he : w.redis k = some e) : e.session.kind.isAccess = true ∧ e.Copied (h.push w) k := by
  have hold : h.world.redis k = some e →
      e.session.kind.isAccess = true ∧ e.Copied (h.push w) k :=
    fun hk => ⟨hs.access k e hk, (hs.copied k e hk).push⟩
  cases hm with
  | evolve hw =>
    rcases hw.redis k with hk | hk
    · exact hold (hk ▸ he)
    · rw [hk] at he; cases he
  | insert _ _ _ hredis => exact hold (hredis ▸ he)
  | @fill row session _ _ hsessions hrow hsession haccess hredis =>
    rcases hredis k with hk | ⟨rfl, hk⟩
    · exact hold (hk ▸ he)
    · obtain rfl := Option.some.inj (hk.symm.trans he)
      exact ⟨haccess, w, List.mem_cons_self, rfl, row, hrow, rfl, hsession⟩

/-- **A move keeps the invariant.** -/
theorem Sound.push (hs : Sound h) (hm : StoreMove h w) : Sound (h.push w) where
  times v hv := by
    rcases List.mem_cons.mp hv with rfl | hv
    · exact le_rfl
    · exact (hs.times v hv).trans hm.now_le
  agree := hs.agree_push hm
  access k e he := (hs.entry_push hm he).1
  copied k e he := (hs.entry_push hm he).2

/-- A run starts in a state that satisfies the invariant. -/
theorem StoreInit.sound (hi : StoreInit h) : Sound h := by
  have hnow : h.moments = [h.world] := by rw [Timeline.moments, hi.past]
  refine ⟨fun v hv => ?_, ?_, fun k e he => ?_, fun k e he => ?_⟩
  · rw [hnow] at hv
    exact (List.mem_singleton.mp hv) ▸ le_rfl
  · rintro row row' ⟨v, hv, hrow⟩ ⟨v', hv', hrow'⟩
    rw [hnow] at hv hv'
    obtain rfl := List.mem_singleton.mp hv
    obtain rfl := List.mem_singleton.mp hv'
    refine ⟨fun ht => ?_, fun hid => ?_⟩
    · obtain rfl := Keyed.eq_of_key_eq _ hi.tokens hrow hrow' ht
      exact ⟨rfl, rfl⟩
    · obtain rfl := Keyed.eq_of_key_eq _ hi.ids hrow hrow' hid
      rfl
  · rw [hi.redis k] at he; cases he
  · rw [hi.redis k] at he; cases he

/-- Moves keep the invariant. -/
theorem StoreMoves.sound (hm : StoreMoves h h') (hs : Sound h) : Sound h' :=
  hm.invariant (fun _ _ hs hw => hs.push hw) hs

/-- What was known is known. -/
theorem StoreMoves.known (hm : StoreMoves h h') {row : SessionRow} (hk : Known h row) :
    Known h' row := by
  obtain ⟨v, hv, hrow⟩ := hk
  exact ⟨v, hm.moments.subset hv, hrow⟩

end Sound

/-! ## Tokens that are gone -/

/-- A token that has been in use has no row, and its cache entry, if there is one, satisfies
`P`. -/
structure Gone (k : SessionToken) (P : CacheEntry → Prop) (h : Timeline World) : Prop where
  /-- The token has been in use. -/
  known : ∃ row, Known h row ∧ row.token = k
  /-- No row has the token. -/
  row : ∀ row ∈ h.world.db.sessions, row.token ≠ k
  /-- The cache entry. -/
  entry : ∀ e, h.world.redis k = some e → P e

/-- No lookup returns a session for the token. -/
def Refused (connected : Bool) (F : Req → Prop) (k : SessionToken) (h : Timeline World) : Prop :=
  ∀ r h', (CachedSessionStore.findValid connected k).Exec (TimedEnv F) h r h' →
    ∀ session, r ≠ .ok (some session)

section Gone

variable {h h' : Timeline World} {w : World} {k : SessionToken} {P : CacheEntry → Prop}

/-- **What is gone stays gone**: a new session has a new token, and only sessions of the
database are cached. -/
theorem Gone.push (hg : Gone k P h) (hm : StoreMove h w) : Gone k P (h.push w) := by
  obtain ⟨row₁, ⟨v, hv, hrow₁⟩, htoken⟩ := hg.known
  refine ⟨⟨row₁, ⟨v, List.mem_cons_of_mem _ hv, hrow₁⟩, htoken⟩, ?_, ?_⟩
  · obtain ⟨new, hrows, hnew⟩ := hm.rows
    intro row hrow heq
    rcases hrows row hrow with ⟨row₀, hrow₀, _, rfl⟩ | hr
    · exact hg.row row₀ hrow₀ heq
    · exact (hnew row hr row₁ ⟨v, hv, hrow₁⟩).1 (htoken.trans heq.symm)
  · intro e he
    cases hm with
    | evolve hw =>
      rcases hw.redis k with hk | hk
      · exact hg.entry e (hk ▸ he)
      · change w.redis k = some e at he
        rw [hk] at he; cases he
    | insert _ _ _ hredis => exact hg.entry e (hredis ▸ he)
    | fill _ _ hsessions hrow _ _ hredis =>
      rcases hredis k with hk | ⟨rfl, -⟩
      · exact hg.entry e (hk ▸ he)
      · exact absurd rfl (hg.row _ (hsessions ▸ hrow))

/-- What is gone stays gone along moves. -/
theorem StoreMoves.gone (hm : StoreMoves h h') (hg : Gone k P h) : Gone k P h' :=
  hm.invariant (fun _ _ hg hw => hg.push hw) hg

/-- **A token that is gone is refused** once its cache entry is too old. -/
theorem Gone.refused (hg : Gone k P h) (hP : ∀ e, P e → e.deadline < h.world.now)
    (connected : Bool) (F : Req → Prop) : Refused connected F k h := by
  rintro r h' hx session rfl
  obtain ⟨-, hfound⟩ := CachedSessionStore.ensures_findValid.of_exec hx
  obtain ⟨h₁, hh₁, hoffers, -⟩ := hfound session rfl
  have hg₁ := hh₁.gone hg
  rcases hoffers with ⟨e, he, hlive, -⟩ | ⟨row, hrow, htoken, -⟩
  · have hold := hP e (hg₁.entry e he)
    exact absurd hlive (not_le.mpr (hold.trans_le hh₁.now_le))
  · exact hg₁.row row hrow htoken

/-- A token without a row is refused 900 seconds later. -/
theorem Gone.of_sound (hs : Sound h) (hknown : ∃ row, Known h row ∧ row.token = k)
    (hrow : ∀ row ∈ h.world.db.sessions, row.token ≠ k) :
    Gone k (fun e => e.deadline ≤ h.world.now + seconds sessionTtlSeconds) h := by
  refine ⟨hknown, hrow, fun e he => ?_⟩
  obtain ⟨v, hv, hdeadline, -⟩ := hs.copied k e he
  rw [← hdeadline]
  exact Int.add_le_add_right (hs.times v hv) _

/-- The token of a refresh session is never cached. -/
theorem Sound.redis_refresh (hs : Sound h) {row : SessionRow} (hk : Known h row)
    (hkind : row.kind = SessionKind.refresh.asStr) : h.world.redis row.token = none := by
  cases he : h.world.redis row.token with
  | none => rfl
  | some e =>
    obtain ⟨v, hv, -, row', hrow', htoken, hsession⟩ := hs.copied _ e he
    have hagree := ((hs.agree row' row ⟨v, hv, hrow'⟩ hk).1 htoken).1
    have haccess := hs.access _ e he
    have hrefresh := (SessionRow.toSession_ok hsession).2.1
    rw [hagree, hkind, SessionKind.tryFrom_asStr] at hrefresh
    rw [← Except.ok.inj hrefresh] at haccess
    cases haccess

end Gone

/-! ## Revocations -/

section Revoke

variable {G : Req → Prop} {h h' : Timeline World} {connected : Bool} {x : SessionToken}

/-- What a revocation that returned has done: the token has no row, and no cache entry if the
cache could be reached. -/
structure Revoked (connected : Bool) (G : Req → Prop) (x : SessionToken) (w : World) : Prop where
  /-- No row has the token. -/
  row : ∀ row ∈ w.db.sessions, row.token ≠ x
  /-- The cache entry is gone if the cache is connected and `DEL` does not fail. -/
  entry : connected = true → ¬ G (.redis (.del [x])) → w.redis x = none

/-- What is revoked stays so while nothing is added. -/
theorem Revoked.evolve {w w' : World} (hr : Revoked connected G x w) (hw : w.Evolves w') :
    Revoked connected G x w' where
  row row' hrow' heq := by
    obtain ⟨row, hrow, _, rfl⟩ := hw.sessions row' hrow'
    exact hr.row row hrow heq
  entry hconnected hG := by
    rcases hw.redis x with hk | hk
    · rw [hk]; exact hr.entry hconnected hG
    · exact hk

namespace CachedSessionStore

/-- Invalidating a token adds nothing, and drops its entry if the cache can be reached. -/
theorem ensures_invalidateCache :
    (invalidateCache connected x).Ensures (TimedEnv G)
      (fun _ h' => (StoreMoves h h' ∧ h.world.Evolves h'.world) ∧
        (connected = true → ¬ G (.redis (.del [x])) → h'.world.redis x = none)) h := by
  refine Prog.wp_bind.mpr (Prog.wp_rejectIf.mpr ⟨fun _ => ?_, fun hc => ?_⟩)
  · refine Prog.wp_mapErr.mpr (Prog.ensures_ask.mpr fun a h₁ he => ?_)
    have hmove := Req.Quiet.storeMoved (q := .redis (.del [x])) trivial he
    obtain ⟨w, w', hlater, hE, rfl⟩ := he
    refine ⟨⟨.single hmove, hlater.evolves.trans (Req.Quiet.evolves (q := .redis (.del [x]))
      trivial hE)⟩, fun _ hG => ?_⟩
    obtain ⟨-, rfl⟩ | ⟨hfault, -⟩ := hE
    · exact if_pos List.mem_cons_self
    · exact absurd hfault hG
  · exact ⟨⟨.refl, .refl _⟩, fun hconnected => by rw [hc] at hconnected; cases hconnected⟩

/-- A revocation that returned has revoked the token. -/
theorem ensures_revoke :
    (revoke connected x).Ensures (TimedEnv G)
      (fun r h' => StoreMoves h h' ∧ (r = .ok () → Revoked connected G x h'.world)) h := by
  refine Prog.wp_bind.mpr (Prog.wp_mapErr.mpr (Prog.ensures_ask.mpr fun a h₁ he => ?_))
  have hmove := Req.Quiet.storeMoved (q := .update (.deleteSession x)) trivial he
  obtain ⟨w, w', hlater, hE, rfl⟩ := he
  cases a with
  | error e => exact ⟨.single hmove, fun hr => by cases hr⟩
  | ok u =>
    have hgone : ∀ row ∈ w'.db.sessions, row.token ≠ x := by
      obtain ⟨_, db, hx, -, rfl⟩ | ⟨e, -, hm, -⟩ | ⟨-, ⟨m, hm⟩, -⟩ := hE
      · obtain ⟨-, rfl⟩ := Prod.mk.inj (Except.ok.inj hx)
        intro row hrow
        simpa using (List.mem_filter.mp hrow).2
      · cases hm
      · cases hm
    refine Prog.wp_bind.mpr (Prog.wp_attempt.mpr ?_)
    refine ensures_invalidateCache.mono fun _ h₂ ⟨⟨hmoves, hevolves⟩, hentry⟩ => ?_
    refine Prog.wp_pure.mpr ⟨.head hmove hmoves, fun _ => ⟨fun row hrow heq => ?_, hentry⟩⟩
    obtain ⟨row₀, hrow₀, _, rfl⟩ := hevolves.sessions row hrow
    exact hgone row₀ hrow₀ heq

/-- A revocation by id that returned has revoked the token of the id. -/
theorem ensures_revokeById {u : UserId} {id : Uuid} :
    (revokeById connected u id).Ensures (TimedEnv G)
      (fun r h' => StoreMoves h h' ∧ (r = .ok () → ∃ row, Known h' row ∧ row.id = id ∧
        Revoked connected G row.token h'.world)) h := by
  refine Prog.wp_bind.mpr (Prog.wp_bind.mpr (Prog.wp_mapErr.mpr
    (Prog.ensures_ask.mpr fun a h₁ he => ?_)))
  have hmove := Req.Quiet.storeMoved (q := .query (.activeTokenById u id)) trivial he
  obtain ⟨w, w', hlater, ⟨rfl, ha⟩, rfl⟩ := he
  cases a with
  | error e => exact ⟨.single hmove, fun hr => by cases hr⟩
  | ok found =>
    refine Prog.wp_ofOption.mpr ⟨fun token htoken => ?_, fun _ =>
      ⟨.single hmove, fun hr => by cases hr⟩⟩
    obtain hfound | ⟨-, m, hm⟩ := ha
    swap
    · cases hm
    have hexec : (w'.db.sessions.find? fun s => s.id = id ∧ s.userId = u ∧ s.active w'.now).map
        (·.token) = some token := htoken ▸ (Except.ok.inj hfound).symm
    obtain ⟨row, hfind, rfl⟩ := Option.map_eq_some_iff.mp hexec
    have hkey : row.id = id ∧ row.userId = u ∧ row.active w'.now = true := by
      simpa using List.find?_some hfind
    refine ensures_revoke.mono fun r h₂ ⟨hmoves, hrevoked⟩ => ⟨.head hmove hmoves, fun hr => ?_⟩
    refine ⟨row, hmoves.known ⟨_, Timeline.world_mem _, ?_⟩, hkey.1, hrevoked hr⟩
    exact List.mem_of_find?_eq_some hfind

end CachedSessionStore

/-- An invalidation of a pair that returned has revoked the presented token and deleted the
rows of the pair of the session it found. -/
theorem ensures_invalidatePair_ok {config : SessionConfig} :
    (SessionService.invalidatePair ⟨config, CachedSessionStore.store connected⟩ x).Ensures
      (TimedEnv G) (fun r h' => r = .ok () → ∃ session h₁, StoreMoves h h₁ ∧
        h₁.world.Offers x session ∧ StoreMoves h₁ h' ∧ Revoked connected G x h'.world ∧
        ∀ p, session.pairId = some p → ∀ row ∈ h'.world.db.sessions, row.pairId ≠ some p) h := by
  refine Prog.wp_bind.mpr (Prog.wp_bind.mpr (Prog.wp_mapErr.mpr ?_))
  refine CachedSessionStore.ensures_findValid.mono fun r h₂ ⟨hmoves, hfound⟩ => ?_
  cases r with
  | error e => exact fun hr => by cases hr
  | ok found =>
    refine Prog.wp_ofOption.mpr ⟨fun session hsession => ?_, fun _ hr => by cases hr⟩
    obtain ⟨h₁, hh₁, hoffers, h₁h₂⟩ := hfound session (congrArg _ hsession)
    refine Prog.wp_bind.mpr (Prog.wp_mapErr.mpr (CachedSessionStore.ensures_revoke.mono ?_))
    rintro r h₃ ⟨h₂h₃, hrevoked⟩
    cases r with
    | error e => exact fun hr => by cases hr
    | ok _ =>
      have hrev := hrevoked rfl
      have h₁h₃ := h₁h₂.trans h₂h₃
      cases hpair : session.pairId with
      | none =>
        exact Prog.wp_pure.mpr fun _ => ⟨session, h₁, hh₁, hoffers, h₁h₃, hrev,
          fun p hp => by rw [hpair] at hp; cases hp⟩
      | some p =>
        refine Prog.wp_mapErr.mpr (Prog.wp_mapErr.mpr (Prog.ensures_ask.mpr fun a h₄ he => ?_))
        have hmove := Req.Quiet.storeMoved (q := .update (.deletePair p x)) trivial he
        obtain ⟨w, w', hlater, hE, rfl⟩ := he
        have hevolves := hlater.evolves.trans
          (Req.Quiet.evolves (q := .update (.deletePair p x)) trivial hE)
        cases a with
        | error e => exact fun hr => by cases hr
        | ok _ =>
          refine fun _ => ⟨session, h₁, hh₁, hoffers, h₁h₃.tail hmove, hrev.evolve hevolves, ?_⟩
          intro p' hp' row hrow hrowpair
          obtain rfl : p = p' := Option.some.inj (hpair.symm.trans hp')
          have htoken := (hrev.evolve hevolves).row row hrow
          obtain ⟨_, db, hx, -, rfl⟩ | ⟨e, -, hm, -⟩ | ⟨-, ⟨m, hm⟩, -⟩ := hE
          · obtain ⟨-, rfl⟩ := Prod.mk.inj (Except.ok.inj hx)
            have hkept : row.pairId = some p → row.token = x := by
              simpa [imp_iff_not_or] using (List.mem_filter.mp hrow).2
            exact htoken (hkept hrowpair)
          · cases hm
          · cases hm

end Revoke

/-! ## Bounded staleness -/

/-- `h₂` can be reached from `h₁` without drawing a UUID twice. -/
def StoreRuns (connected : Bool) (F : Req → Prop) (h₁ h₂ : Timeline World) : Prop :=
  h₂.world.minted.Nodup ∧ ∃ tr,
    Run (· = h₁) (StoreStep (CachedSessionStore.store connected) F World.Evolves) tr h₂

section Bound

variable {connected : Bool} {F G : Req → Prop} {h h₁ h₂ : Timeline World}

/-- What can be reached is reached by moves. -/
theorem StoreRuns.moves (hi : Issued h₁) (hr : StoreRuns connected F h₁ h₂) :
    StoreMoves h₁ h₂ := by
  obtain ⟨hnodup, tr, hr⟩ := hr
  have hinit : ∀ h, h = h₁ → Issued h := fun h hh => hh ▸ hi
  obtain ⟨_, rfl, hm, -⟩ := storeMoves_of_run hinit hr hnodup
  exact hm

/-- A token that has no row any more is refused from the time on at which its entries have
expired. -/
theorem Refused.of_row (hs : Sound h₁) (hi : Issued h₁) {row : SessionRow} (hk : Known h₁ row)
    (hgone : ∀ r ∈ h₁.world.db.sessions, r.token ≠ row.token)
    (hr : StoreRuns connected F h₁ h₂)
    (hlate : h₁.world.now + seconds sessionTtlSeconds < h₂.world.now) :
    Refused connected F row.token h₂ :=
  ((hr.moves hi).gone (.of_sound hs ⟨row, hk, rfl⟩ hgone)).refused
    (fun _ he => he.trans_lt hlate) connected F

/-- A token that has neither a row nor a cache entry is refused at once. -/
theorem Refused.of_none (hi : Issued h₁) {row : SessionRow} (hk : Known h₁ row)
    (hgone : ∀ r ∈ h₁.world.db.sessions, r.token ≠ row.token)
    (hentry : h₁.world.redis row.token = none) (hr : StoreRuns connected F h₁ h₂) :
    Refused connected F row.token h₂ := by
  have hg : Gone row.token (fun _ => False) h₁ :=
    ⟨⟨row, hk, rfl⟩, hgone, fun e he => by rw [hentry] at he; cases he⟩
  exact ((hr.moves hi).gone hg).refused (fun _ he => he.elim) connected F

/-- A session on offer is that of a known row. -/
theorem Sound.row_of_offers (hs : Sound h) {x : SessionToken} {session : Session}
    (ho : h.world.Offers x session) : ∃ v ∈ h.moments, ∃ row ∈ v.db.sessions, row.token = x ∧
      row.toSession = .ok session ∧ h.world.now ≤ v.now + seconds sessionTtlSeconds := by
  rcases ho with ⟨e, he, hlive, rfl⟩ | ⟨row, hrow, htoken, hsession⟩
  · obtain ⟨v, hv, hdeadline, row, hrow, htoken, hsession⟩ := hs.copied x e he
    exact ⟨v, hv, row, hrow, htoken, hsession, hdeadline ▸ hlive⟩
  · exact ⟨_, h.world_mem, row, hrow, htoken, hsession, Int.le_add_of_nonneg_right (by decide)⟩

/-- **Staleness is bounded.**  Any request may fail in a run, in particular any cache command.
After an invalidation of a pair that returned at `T`, the refresh token of the pair is refused,
every token of the pair is refused later than `T` and 900 seconds, and the presented token is
refused if `DEL` did not fail; after a revocation the token is refused later than `T` and 900
seconds; and the snapshots a lookup returns were in the database at most 900 seconds before a
moment of the lookup.

**Proof sketch.** Runs move as `StoreMove` says, and moves keep `Sound`: an entry copies a row
of the moment its time-to-live started.  A token without a row stays without one, and its entry
can only go away, so once the entry is too old nothing is on offer. -/
theorem bounded_staleness {tr : List (Timeline World × Option StoreOp)}
    (hrun : Run StoreInit (StoreStep (CachedSessionStore.store connected) F World.Evolves) tr h) :
    (∀ config x h₁ h₂,
      (SessionService.invalidatePair ⟨config, CachedSessionStore.store connected⟩ x).Exec
        (TimedEnv G) h (.ok ()) h₁ → StoreRuns connected F h₁ h₂ →
      ∀ p row, Known h₁ row → row.token = x → row.pairId = some p →
        (connected = true → ¬ G (.redis (.del [x])) → Refused connected F x h₂) ∧
        ∀ row', Known h₁ row' → row'.pairId = some p →
          (row'.kind = SessionKind.refresh.asStr → Refused connected F row'.token h₂) ∧
          (h₁.world.now + seconds sessionTtlSeconds < h₂.world.now →
            Refused connected F row'.token h₂)) ∧
    (∀ x h₁ h₂, (CachedSessionStore.revoke connected x).Exec (TimedEnv G) h (.ok ()) h₁ →
      StoreRuns connected F h₁ h₂ → ∀ row, Known h₁ row → row.token = x →
        h₁.world.now + seconds sessionTtlSeconds < h₂.world.now → Refused connected F x h₂) ∧
    (∀ u id h₁ h₂, (CachedSessionStore.revokeById connected u id).Exec (TimedEnv G) h (.ok ()) h₁ →
      StoreRuns connected F h₁ h₂ → ∀ row, Known h₁ row → row.id = id →
        h₁.world.now + seconds sessionTtlSeconds < h₂.world.now →
        Refused connected F row.token h₂) ∧
    (∀ x session h₁, (CachedSessionStore.findValid connected x).Exec (TimedEnv G) h
        (.ok (some session)) h₁ → h.world.minted.Nodup →
      ∃ t, h.world.now ≤ t ∧ t ≤ h₁.world.now ∧ ∃ v ∈ h₁.moments,
        t - seconds sessionTtlSeconds ≤ v.now ∧ v.now ≤ t ∧ ∃ row ∈ v.db.sessions,
          row.token = x ∧
            MembershipSnapshot.decode row.tenantMemberships = some session.tenantMemberships) := by
  have hstart : h.world.minted.Nodup → Sound h ∧ Issued h := by
    intro hnodup
    obtain ⟨h₀, hinit, hm, hi⟩ := storeMoves_of_run (fun _ hinit => hinit.toIssued) hrun hnodup
    exact ⟨hm.sound hinit.sound, hi⟩
  -- what holds at the end of a call that moves, from which a run draws no UUID twice
  have hend : ∀ h₁ h₂, StoreMoves h h₁ → StoreRuns connected F h₁ h₂ →
      Sound h ∧ Sound h₁ ∧ Issued h₁ := by
    rintro h₁ h₂ hm ⟨hnodup, tr, hr⟩
    have hminted : h₁.world.minted <:+ h₂.world.minted := minted_of_run hr
    obtain ⟨hs, hi⟩ := hstart (hnodup.sublist (hm.minted.trans hminted).sublist)
    exact ⟨hs, hm.sound hs, hm.issued hi⟩
  refine ⟨?_, ?_, ?_, ?_⟩
  · intro config x h₁ h₂ hx hr p row hk htoken hpair
    have hm : StoreMoves h h₁ := ensures_invalidatePair.of_exec hx
    obtain ⟨hs, hs₁, hi⟩ := hend h₁ h₂ hm hr
    obtain ⟨session, h', hh', hoffers, h'h₁, hrevoked, hrows⟩ :=
      ensures_invalidatePair_ok.of_exec hx rfl
    -- the session that was found has the pair of the token's rows
    obtain ⟨v, hv, row₀, hrow₀, htoken₀, hsession, -⟩ := (hh'.sound hs).row_of_offers hoffers
    have hpair₀ : session.pairId = some p := by
      rw [(SessionRow.toSession_ok hsession).2.2.2.2, ← hpair]
      exact ((hs₁.agree row₀ row (h'h₁.known ⟨v, hv, hrow₀⟩) hk).1 (htoken₀.trans htoken.symm)).2
    have hgone : ∀ row', Known h₁ row' → row'.pairId = some p →
        ∀ r ∈ h₁.world.db.sessions, r.token ≠ row'.token := by
      intro row' hk' hpair' r hrow heq
      have hagree := ((hs₁.agree r row' ⟨_, h₁.world_mem, hrow⟩ hk').1 heq).2
      exact hrows p hpair₀ r hrow (hagree.trans hpair')
    refine ⟨fun hconnected hG => ?_, fun row' hk' hpair' => ⟨fun hkind => ?_, fun hlate => ?_⟩⟩
    · subst htoken
      exact .of_none hi hk hrevoked.row (hrevoked.entry hconnected hG) hr
    · exact .of_none hi hk' (hgone row' hk' hpair') (hs₁.redis_refresh hk' hkind) hr
    · exact .of_row hs₁ hi hk' (hgone row' hk' hpair') hr hlate
  · intro x h₁ h₂ hx hr row hk htoken hlate
    subst htoken
    obtain ⟨hm, hrevoked⟩ := CachedSessionStore.ensures_revoke.of_exec hx
    obtain ⟨-, hs₁, hi⟩ := hend h₁ h₂ hm hr
    exact .of_row hs₁ hi hk (hrevoked rfl).row hr hlate
  · intro u id h₁ h₂ hx hr row hk hid hlate
    obtain ⟨hm, hrevoked⟩ := CachedSessionStore.ensures_revokeById.of_exec hx
    obtain ⟨-, hs₁, hi⟩ := hend h₁ h₂ hm hr
    obtain ⟨row', hk', hid', hrevoked⟩ := hrevoked rfl
    have htoken : row'.token = row.token := (hs₁.agree row' row hk' hk).2 (hid'.trans hid.symm)
    exact .of_row hs₁ hi hk (htoken ▸ hrevoked.row) hr hlate
  · intro x session h₁ hx hnodup
    obtain ⟨hs, -⟩ := hstart hnodup
    obtain ⟨-, hfound⟩ := CachedSessionStore.ensures_findValid.of_exec hx
    obtain ⟨h', hh', hoffers, h'h₁⟩ := hfound session rfl
    obtain ⟨v, hv, row, hrow, htoken, hsession, hnow⟩ := (hh'.sound hs).row_of_offers hoffers
    refine ⟨h'.world.now, hh'.now_le, h'h₁.now_le, v, h'h₁.moments.subset hv, ?_, ?_, row, hrow,
      htoken, (SessionRow.toSession_ok hsession).1⟩
    · exact Int.sub_right_le_of_le_add hnow
    · exact (hh'.sound hs).times v hv

end Bound

namespace Scenario

/-- A user has logged in and used the access token. -/
def loggedIn : Timeline World :=
  storeAfter (CachedSessionStore.store true)
    [.findValid ⟨0⟩, .createWithKind ⟨901⟩ (seconds 86400) .refresh (some 7),
     .createWithKind ⟨901⟩ (seconds 3600) .access (some 7)]

/-- The user has logged out. -/
def loggedOut : Timeline World :=
  ((SessionService.invalidatePair ⟨{}, CachedSessionStore.store true⟩ ⟨0⟩).eval
    (Timeline.answer World.answer) loggedIn).2

end Scenario

/-- After a logout the refresh token is refused at once, and the access token 901 seconds
later. -/
theorem bounded_staleness_logout :
    Refused true anyFault ⟨2⟩ Scenario.loggedOut ∧ Refused true anyFault ⟨0⟩
      (Scenario.loggedOut.push { Scenario.loggedOut.world with now := seconds 901 }) := by
  obtain ⟨tr, hrun, -⟩ : ∃ tr, Run StoreInit _ tr Scenario.loggedIn ∧ _ :=
    Scenario.run_storeAfter (CachedSessionStore.store true) anyFault World.Evolves _
  have hx : (SessionService.invalidatePair ⟨{}, CachedSessionStore.store true⟩ ⟨0⟩).Exec
      (TimedEnv anyFault) Scenario.loggedIn (.ok ()) Scenario.loggedOut :=
    Scenario.exec_timed_ok (by decide +kernel) anyFault
  have hrows : Scenario.loggedIn.world.db.sessions.map (fun r => (r.token, r.kind, r.pairId)) =
      [(⟨0⟩, "access", some 7), (⟨2⟩, "refresh", some 7)] := by decide +kernel
  have hnow : Scenario.loggedOut.world.now = 0 := by decide +kernel
  have hnodup : Scenario.loggedOut.world.minted.Nodup := by decide +kernel
  generalize Scenario.loggedIn = h at *
  generalize Scenario.loggedOut = h₁ at *
  have hknown : ∀ row ∈ h.world.db.sessions, Known h₁ row := fun row hrow =>
    ⟨h.world, (Timeline.suffix_of_exec hx).subset h.world_mem, hrow⟩
  obtain ⟨access, haccess, hkeys⟩ := List.mem_map.mp (hrows ▸ List.mem_cons_self)
  obtain ⟨refresh, hrefresh, hkeys'⟩ :=
    List.mem_map.mp (hrows ▸ List.mem_cons_of_mem _ List.mem_cons_self)
  simp only [Prod.mk.injEq] at hkeys hkeys'
  obtain ⟨w, hw⟩ : ∃ w : World, w = { h₁.world with now := seconds 901 } := ⟨_, rfl⟩
  have hlater : h₁.world.Later w := ⟨_, by rw [hnow]; decide, hw⟩
  have hbound := fun h₂ hr => (bounded_staleness hrun).1 {} ⟨0⟩ h₁ h₂ hx hr 7 access
    (hknown access haccess) hkeys.1 hkeys.2.2
  have hnone := (hbound h₁ ⟨hnodup, [], .start rfl⟩).2 refresh (hknown refresh hrefresh) hkeys'.2.2
  have hlate := (hbound (h₁.push w) ⟨by rw [Timeline.world_push, hw]; exact hnodup, _,
    .snoc (.start rfl) (.other hlater.evolves)⟩).2 access (hknown access haccess) hkeys.2.2
  rw [hkeys'.1] at hnone
  rw [hkeys.1, Timeline.world_push, hnow, hw] at hlate
  have hexpired : (0 : Time) + seconds sessionTtlSeconds < seconds 901 := by decide
  exact ⟨hnone.1 hkeys'.2.1, hlate.2 hexpired⟩

end Klynt
