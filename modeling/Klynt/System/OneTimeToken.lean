import Klynt.Persistence.AccountFrame
import Klynt.Persistence.Repository

set_option relaxedAutoImplicit false
set_option autoImplicit false

/-!
# One-time tokens

Any number of clients save and consume tokens at the same time, and time passes in between.  Each
call is one statement, and a token is consumed by the statement that marks it, so what a table
says about a hash is what the statements before have made of it.

## Main definitions

* `TokenOp`, `TokenOp.run` — the calls of the token store.
* `TokenInit` — clients that are about to call the store, whose tables are empty.
* `Ledger` — the tables of tokens agree with a log.

## Main results

* `Ledger.step` — every statement of the store keeps the tables in agreement with the log.
* `one_time_tokens` — a token is consumed once, in time, by its kind and for its user.
-/

namespace Klynt

/-! ## Calls -/

/-- Calls of the token store. -/
inductive TokenOp where
  /-- `save`. -/
  | save (kind : TokenKind) (u : UserId) (hash : String) (expiresAt : Time)
  /-- `consume`. -/
  | consume (kind : TokenKind) (hash : String)

namespace TokenOp

/-- The statement of a call. -/
def statement : TokenOp → Update
  | save kind u hash expiresAt => .insertToken kind u hash expiresAt
  | consume kind hash => .consumeToken kind hash

/-- The call; a token that was consumed was for the user returned. -/
def run : TokenOp → Action TokenError (Option UserId)
  | save kind u hash expiresAt => (fun _ => none) <$> PgTokenStore.save kind u hash expiresAt
  | consume kind hash => some <$> PgTokenStore.consume kind hash

/-- What a call makes of the outcome of its statement. -/
def outcome : (op : TokenOp) → Except SqlxError op.statement.Res →
    Except TokenError (Option UserId)
  | save _ _ _ _, .ok () => .ok none
  | save _ _ _ _, .error e => .error (.ofSqlx e)
  | consume _ _, .ok (some u) => .ok (some u)
  | consume _ _, .ok none => .error .invalid
  | consume _ _, .error e => .error (.ofSqlx e)

end TokenOp

/-- A token that was saved. -/
def savedEvent (kind : TokenKind) (u : UserId) (hash : String) (expiresAt : Time) :
    Prog.Event Req Ans :=
  ⟨.update (.insertToken kind u hash expiresAt), (.ok () : Except SqlxError Unit)⟩

/-- A token that was consumed. -/
def consumedEvent (kind : TokenKind) (hash : String) (u : UserId) : Prog.Event Req Ans :=
  ⟨.update (.consumeToken kind hash), (.ok (some u) : Except SqlxError (Option UserId))⟩

/-- **A call is one statement**, whose outcome it returns. -/
lemma TokenOp.traced (op : TokenOp) :
    op.run.Traced (fun h q => h = [] ∧ q = .update op.statement)
      (fun r h => ∃ a, h = [⟨.update op.statement, a⟩] ∧ r = op.outcome a) [] := by
  cases op with
  | save kind u hash expiresAt =>
    refine Prog.wp_map.mpr (Prog.wp_mapErr.mpr (Prog.wp_ask.mpr ⟨⟨rfl, rfl⟩, ?_⟩))
    rintro a h rfl
    refine Prog.wp_done.mpr ⟨a, rfl, ?_⟩
    rcases a with e | ⟨⟩ <;> rfl
  | consume kind hash =>
    refine Prog.wp_map.mpr (Prog.wp_bind.mpr (Prog.wp_mapErr.mpr (Prog.wp_ask.mpr ⟨⟨rfl, rfl⟩, ?_⟩)))
    rintro a h rfl
    refine Prog.wp_done.mpr ?_
    rcases a with e | _ | u
    · exact ⟨.error e, rfl, rfl⟩
    · exact Prog.wp_ofOption.mpr ⟨fun _ hu => (by cases hu), fun _ => ⟨.ok none, rfl, rfl⟩⟩
    · refine Prog.wp_ofOption.mpr ⟨fun v hv => ?_, fun hu => (by cases hu)⟩
      obtain rfl := Option.some.inj hv
      exact ⟨.ok (some u), rfl, rfl⟩

/-! ## Tables and logs -/

/-- The tables of tokens agree with a log: every row was saved, no hash is stored twice, and what
was consumed is marked. -/
structure Ledger {ι : Type} (log : List (ι × Prog.Event Req Ans)) (db : Db) : Prop where
  /-- Every row was saved. -/
  saved : ∀ kind, ∀ row ∈ db.tokens kind, ∃ j hash, varchar 64 hash = .ok row.tokenHash ∧
    (j, savedEvent kind row.userId hash row.expiresAt) ∈ log
  /-- No hash is stored twice. -/
  nodup : ∀ kind, ((db.tokens kind).map (·.tokenHash)).Nodup
  /-- What was consumed is marked. -/
  used : ∀ kind hash i u, (i, consumedEvent kind hash u) ∈ log →
    ∃ row ∈ db.tokens kind, row.tokenHash = hash ∧ row.usedAt.isSome = true

/-- The row after a token was consumed. -/
def EmailVerificationTokenRow.consumed (row : EmailVerificationTokenRow) (hash : String)
    (now : Time) : EmailVerificationTokenRow :=
  if row.usable hash now then { row with usedAt := some now } else row

section Consumed

variable (row : EmailVerificationTokenRow) (hash : String) (now : Time)

/-- The hash stays. -/
@[simp] lemma EmailVerificationTokenRow.tokenHash_consumed :
    (row.consumed hash now).tokenHash = row.tokenHash := by
  unfold consumed; split <;> rfl

/-- The user stays. -/
@[simp] lemma EmailVerificationTokenRow.userId_consumed :
    (row.consumed hash now).userId = row.userId := by
  unfold consumed; split <;> rfl

/-- The expiry stays. -/
@[simp] lemma EmailVerificationTokenRow.expiresAt_consumed :
    (row.consumed hash now).expiresAt = row.expiresAt := by
  unfold consumed; split <;> rfl

/-- A mark stays. -/
lemma EmailVerificationTokenRow.usedAt_consumed (h : row.usedAt.isSome = true) :
    (row.consumed hash now).usedAt.isSome = true := by
  unfold consumed; split
  · rfl
  · exact h

variable {row hash now}

/-- What a usable row says. -/
lemma EmailVerificationTokenRow.of_usable (h : row.usable hash now = true) :
    row.tokenHash = hash ∧ row.usedAt = none ∧ now < row.expiresAt := by
  simpa [usable] using h

end Consumed

section Ledger

variable {ι : Type} {log : List (ι × Prog.Event Req Ans)} {db db' : Db} {now : Time} {i : ι}

/-- An agreement is kept by what happens to other tables and is no consumption. -/
lemma Ledger.cons (h : Ledger log db) {e : Prog.Event Req Ans}
    (he : ∀ kind hash u, e ≠ consumedEvent kind hash u) : Ledger ((i, e) :: log) db where
  saved kind row hrow := by
    obtain ⟨j, hash, hstored, hmem⟩ := h.saved kind row hrow
    exact ⟨j, hash, hstored, List.mem_cons_of_mem _ hmem⟩
  nodup := h.nodup
  used kind hash j u hmem := by
    rcases List.mem_cons.mp hmem with heq | hmem
    · exact absurd (Prod.mk.inj heq).2.symm (he kind hash u)
    · exact h.used kind hash j u hmem

/-- A token is saved. -/
lemma Ledger.insertToken (h : Ledger log db) {kind : TokenKind} {u : UserId} {hash : String}
    {expiresAt : Time} (hx : Klynt.insertToken kind u hash expiresAt now db = .ok ((), db')) :
    Ledger ((i, savedEvent kind u hash expiresAt) :: log) db' := by
  obtain ⟨tokenHash, hstored, hnew, rfl⟩ := @insertToken_ok now _ _ _ _ _ _ hx
  have hcons : Ledger ((i, savedEvent kind u hash expiresAt) :: log) db :=
    h.cons fun _ _ _ heq => nomatch congrArg Sigma.fst heq
  constructor
  · intro kind' row hrow
    by_cases hkind : kind' = kind
    · subst hkind
      rw [Db.tokens_withTokens] at hrow
      rcases List.mem_append.mp hrow with hrow | hrow
      · exact hcons.saved kind' row hrow
      · obtain rfl := List.mem_singleton.mp hrow
        exact ⟨i, hash, hstored, List.mem_cons_self⟩
    · rw [Db.tokens_withTokens_of_ne _ _ _ hkind] at hrow
      exact hcons.saved kind' row hrow
  · intro kind'
    by_cases hkind : kind' = kind
    · subst hkind
      rw [Db.tokens_withTokens, List.map_append]
      refine List.nodup_append.mpr ⟨h.nodup kind', List.nodup_singleton _, ?_⟩
      intro x hx y hy
      obtain ⟨row, hrow, rfl⟩ := List.mem_map.mp hx
      rw [List.mem_singleton.mp hy]
      exact hnew row hrow
    · rw [Db.tokens_withTokens_of_ne _ _ _ hkind]
      exact h.nodup kind'
  · intro kind' hash' j v hmem
    obtain ⟨row, hrow, hhash, hused⟩ := hcons.used kind' hash' j v hmem
    refine ⟨row, ?_, hhash, hused⟩
    by_cases hkind : kind' = kind
    · subst hkind
      rw [Db.tokens_withTokens]
      exact List.mem_append_left _ hrow
    · rw [Db.tokens_withTokens_of_ne _ _ _ hkind]
      exact hrow

/-- A token is consumed, or none is found. -/
lemma Ledger.consumeToken (h : Ledger log db) {kind : TokenKind} {hash : String}
    {r : Option UserId} (hx : Klynt.consumeToken kind hash now db = .ok (r, db')) :
    Ledger ((i, ⟨.update (.consumeToken kind hash), (.ok r : Except SqlxError (Option UserId))⟩) ::
      log) db' := by
  obtain ⟨rfl, rfl⟩ := Prod.mk.inj (Except.ok.inj hx)
  have htokens : ∀ kind', (db.withTokens ((db.tokens kind).map fun row =>
        if row.usable hash now then { row with usedAt := some now } else row) kind).tokens kind' =
      (db.tokens kind').map fun row => if kind' = kind then row.consumed hash now else row := by
    intro kind'
    by_cases hkind : kind' = kind
    · subst hkind
      simp only [Db.tokens_withTokens, if_true]
      rfl
    · simp only [Db.tokens_withTokens_of_ne _ _ _ hkind, if_neg hkind, List.map_id']
  have hkeep : ∀ kind' (row : EmailVerificationTokenRow),
      (if kind' = kind then row.consumed hash now else row).tokenHash = row.tokenHash := by
    intro kind' row; split <;> simp
  constructor
  · intro kind' row' hrow'
    rw [htokens] at hrow'
    obtain ⟨row, hrow, rfl⟩ := List.mem_map.mp hrow'
    obtain ⟨j, saved, hstored, hmem⟩ := h.saved kind' row hrow
    refine ⟨j, saved, by rw [hkeep]; exact hstored, List.mem_cons_of_mem _ ?_⟩
    have huser : (if kind' = kind then row.consumed hash now else row).userId = row.userId := by
      split <;> simp
    have hexpires : (if kind' = kind then row.consumed hash now else row).expiresAt =
        row.expiresAt := by
      split <;> simp
    rw [huser, hexpires]
    exact hmem
  · intro kind'
    rw [htokens, List.map_map]
    have hsame : ((·.tokenHash) ∘ fun row : EmailVerificationTokenRow =>
        if kind' = kind then row.consumed hash now else row) = (·.tokenHash) :=
      funext (hkeep kind')
    rw [hsame]
    exact h.nodup kind'
  · intro kind' hash' j v hmem
    rcases List.mem_cons.mp hmem with heq | hmem
    · -- this statement: the row it found is marked
      have hevent := (Prod.mk.inj heq).2
      obtain ⟨hkind, hhash⟩ : kind' = kind ∧ hash' = hash := by
        have hreq := congrArg Sigma.fst hevent
        simpa [consumedEvent] using hreq
      subst hkind hhash
      have hans : (some v : Option UserId) =
          ((db.tokens kind').find? (·.usable hash' now)).map (·.userId) :=
        Except.ok.inj (eq_of_heq (Sigma.mk.inj hevent).2)
      obtain ⟨row, hfind, -⟩ := Option.map_eq_some_iff.mp hans.symm
      have husable : row.usable hash' now = true := by simpa using List.find?_some hfind
      refine ⟨row.consumed hash' now, ?_, ?_, ?_⟩
      · rw [htokens]
        refine List.mem_map.mpr ⟨row, List.mem_of_find?_eq_some hfind, ?_⟩
        rw [if_pos rfl]
      · rw [EmailVerificationTokenRow.tokenHash_consumed]
        exact (EmailVerificationTokenRow.of_usable husable).1
      · unfold EmailVerificationTokenRow.consumed
        rw [if_pos husable]
        rfl
    · obtain ⟨row, hrow, hhash, hused⟩ := h.used kind' hash' j v hmem
      refine ⟨_, by rw [htokens]; exact List.mem_map_of_mem hrow, ?_, ?_⟩
      · rw [hkeep]; exact hhash
      · split
        · exact row.usedAt_consumed _ _ hused
        · exact hused

/-- **Every statement of the store** keeps the tables in agreement with the log, whatever
fails. -/
theorem Ledger.step {F : Req → Prop} {w w' : World} (h : Ledger log w.db) {op : TokenOp}
    {a : Ans (.update op.statement)} (hE : Env F (.update op.statement) w a w') :
    Ledger ((i, ⟨.update op.statement, a⟩) :: log) w'.db := by
  have hfailed : ∀ e, a = .error e → w' = w →
      Ledger ((i, ⟨.update op.statement, a⟩) :: log) w'.db := by
    rintro e rfl rfl
    refine h.cons fun kind hash u heq => ?_
    cases op with
    | save k v hs t => exact nomatch congrArg Sigma.fst heq
    | consume k hs => cases heq
  rcases hE with ⟨r, db, hx, rfl, rfl⟩ | ⟨e, -, ha, hw⟩ | ⟨-, ⟨m, ha⟩, hw⟩
  · cases op with
    | save kind u hash expiresAt => exact @Ledger.insertToken _ _ _ _ w.now _ h _ _ _ _ hx
    | consume kind hash => exact h.consumeToken hx
  · exact hfailed e ha hw
  · exact hfailed _ ha hw

/-- **A token that is consumed** was saved for its user, is not expired, and was not consumed
before. -/
lemma Ledger.of_consumed {F : Req → Prop} {w w' : World} (h : Ledger log w.db) {kind : TokenKind}
    {hash : String} {u : UserId}
    (hE : Env F (.update (.consumeToken kind hash)) w (.ok (some u)) w') :
    (∃ j saved expiresAt, varchar 64 saved = .ok hash ∧
      (j, savedEvent kind u saved expiresAt) ∈ log ∧ w.now < expiresAt) ∧
    ∀ j v, (j, consumedEvent kind hash v) ∉ log := by
  rcases hE with ⟨r, db, hx, hr, -⟩ | ⟨e, -, hr, -⟩ | ⟨-, ⟨m, hr⟩, -⟩
  · obtain rfl := Except.ok.inj hr
    obtain ⟨hfound, -⟩ := Prod.mk.inj (Except.ok.inj hx)
    obtain ⟨row, hfind, rfl⟩ := Option.map_eq_some_iff.mp hfound
    have hrow := List.mem_of_find?_eq_some hfind
    have husable : row.usable hash w.now = true := by simpa using List.find?_some hfind
    obtain ⟨hhash, hunused, htime⟩ := EmailVerificationTokenRow.of_usable husable
    constructor
    · obtain ⟨j, saved, hstored, hmem⟩ := h.saved kind row hrow
      exact ⟨j, saved, row.expiresAt, hhash ▸ hstored, hmem, htime⟩
    · intro j v hmem
      obtain ⟨row', hrow', hhash', hused⟩ := h.used kind hash j v hmem
      obtain rfl := Keyed.eq_of_key_eq _ (h.nodup kind) hrow' hrow (hhash'.trans hhash.symm)
      rw [hunused] at hused
      cases hused
  · cases hr
  · cases hr

end Ledger

/-! ## Interleavings -/

/-- Clients of the token store. -/
abbrev TokenPool (ι : Type) : Type := Pool ι Req Ans TokenError (Option UserId) World

/-- Clients that are about to call the store, in which no token is saved. -/
def TokenInit {ι : Type} (ops : ι → TokenOp) (P : TokenPool ι) : Prop :=
  (∀ i, P.threads i = (ops i).run) ∧ ∀ kind, P.world.db.tokens kind = []

section Runs

variable {ι : Type} [DecidableEq ι] {ops : ι → TokenOp} {F : Req → Prop}
  {tr : List (TokenPool ι × Pool.Label ι Req Ans)} {P : TokenPool ι}

omit [DecidableEq ι] in
/-- The calls keep to their traces. -/
lemma tokens_traced {P : TokenPool ι} (hi : TokenInit ops P) (i : ι) :
    (P.threads i).Traced (fun h q => h = [] ∧ q = .update (ops i).statement)
      (fun r h => ∃ a, h = [⟨.update (ops i).statement, a⟩] ∧ r = (ops i).outcome a) [] := by
  rw [hi.1 i]
  exact (ops i).traced

/-- Every event of a run is the statement of its client. -/
lemma tokens_event (hr : Run (TokenInit ops) (Pool.Step (Env F) World.Later) tr P) {i : ι}
    {e : Prog.Event Req Ans} (he : (i, e) ∈ Pool.log tr) : e.1 = .update (ops i).statement := by
  have hJ := Pool.justified_of_run (fun _ hi => tokens_traced hi) hr
  obtain ⟨_, _, -, -, hq⟩ := hJ.of_mem he
  exact hq

/-- A client that has returned issued its statement and returned its outcome. -/
lemma tokens_done (hr : Run (TokenInit ops) (Pool.Step (Env F) World.Later) tr P) {i : ι}
    {r : Except TokenError (Option UserId)} (hdone : P.threads i = .done r) :
    ∃ a, Pool.mine i (Pool.log tr) = [⟨.update (ops i).statement, a⟩] ∧ r = (ops i).outcome a := by
  have htr := Pool.traced_of_run (fun _ hi => tokens_traced hi) hr i
  rw [hdone] at htr
  exact Prog.wp_done.mp htr

/-- **The tables agree with the log** in every interleaving. -/
theorem ledger_of_run (hr : Run (TokenInit ops) (Pool.Step (Env F) World.Later) tr P) :
    Ledger (Pool.log tr) P.world.db := by
  induction hr with
  | start hi =>
    refine ⟨fun kind row hrow => ?_, fun kind => ?_, fun _ _ _ _ hmem => absurd hmem List.not_mem_nil⟩
    · rw [hi.2 kind] at hrow
      cases hrow
    · rw [hi.2 kind]
      exact List.nodup_nil
  | @snoc older P P' l hrun hstep ih =>
    cases hstep with
    | tick hT => obtain ⟨_, -, rfl⟩ := hT; exact ih
    | @run i q k a w hi hE =>
      have hq : q = .update (ops i).statement :=
        tokens_event (hrun.snoc (.run hi hE)) (e := ⟨q, a⟩) List.mem_cons_self
      subst hq
      exact ih.step hE

/-- A consumption of a token is in time, of a token that was saved for its user, and the first. -/
def ProperUse (older : List (TokenPool ι × Pool.Label ι Req Ans)) (Q : TokenPool ι)
    (l : Pool.Label ι Req Ans) : Prop :=
  ∀ i kind hash u, l = some (i, consumedEvent kind hash u) →
    (∃ j saved expiresAt, varchar 64 saved = .ok hash ∧
      (j, savedEvent kind u saved expiresAt) ∈ Pool.log older ∧ Q.world.now < expiresAt) ∧
    ∀ j v, (j, consumedEvent kind hash v) ∉ Pool.log older

/-- Every consumption of a run is proper. -/
lemma properUse_of_run (hr : Run (TokenInit ops) (Pool.Step (Env F) World.Later) tr P) :
    Run.Along ProperUse tr := by
  refine Run.along hr fun older Q l Q' hrun hstep i kind hash u hl => ?_
  subst hl
  cases hstep with
  | run hi hE => exact (ledger_of_run hrun).of_consumed hE

/-- A call that consumed a token did so at some moment. -/
lemma consumed_of_done (hr : Run (TokenInit ops) (Pool.Step (Env F) World.Later) tr P) {i : ι}
    {kind : TokenKind} {hash : String} {r : Option UserId} (hop : ops i = .consume kind hash)
    (hdone : P.threads i = .done (.ok r)) :
    ∃ u Q, r = some u ∧ (Q, some (i, consumedEvent kind hash u)) ∈ tr := by
  obtain ⟨a, hmine, hout⟩ := tokens_done hr hdone
  revert a
  rw [hop]
  intro a hmine hout
  rcases a with e | _ | u
  · cases hout
  · cases hout
  · have hmem : (i, consumedEvent kind hash u) ∈ Pool.log tr := by
      refine Pool.mem_mine.mp ?_
      rw [hmine]
      exact List.mem_cons_self
    obtain ⟨Q, hQ⟩ := Pool.mem_log.mp hmem
    exact ⟨u, Q, Except.ok.inj hout, hQ⟩

/-- A statement that finds no token to consume changes nothing. -/
lemma world_eq_of_failed {w w' : World} {op : TokenOp} {kind : TokenKind} {hash : String}
    (hop : op = .consume kind hash) {a : Ans (.update op.statement)} {e : TokenError}
    (hE : Env F (.update op.statement) w a w') (hout : op.outcome a = .error e) : w' = w := by
  subst hop
  rcases hE with ⟨r, db, hx, rfl, rfl⟩ | ⟨e, -, -, hw⟩ | ⟨-, -, hw⟩
  · obtain ⟨hfound, rfl⟩ := Prod.mk.inj (Except.ok.inj hx)
    rcases r with _ | u
    · have hnone := List.find?_eq_none.mp (Option.map_eq_none_iff.mp hfound)
      have hrows : ((w.db.tokens kind).map fun row =>
          if row.usable hash w.now then { row with usedAt := some w.now } else row) =
          w.db.tokens kind := by
        refine (List.map_congr_left fun row hrow => ?_).trans (List.map_id' _)
        exact if_neg (hnone row hrow)
      rw [hrows, Db.withTokens_tokens]
    · cases hout
  · exact hw
  · exact hw

/-- **One-time tokens.**  In every interleaving of calls that save and consume tokens, while time
passes: a token of a kind and a hash is consumed by one call at most; it was saved before, by a
call with that kind and hash (as the column stores it), for the user the consumer receives and
with an expiry that is still to come; and a call that fails to consume changes nothing.

**Proof sketch.** The tables agree with the log (`Ledger`).  A consumption finds an unmarked row,
which a call saved; rows of consumed tokens are marked, and no hash is stored twice. -/
theorem one_time_tokens (hr : Run (TokenInit ops) (Pool.Step (Env F) World.Later) tr P) :
    (∀ i j kind hash u v, ops i = .consume kind hash → ops j = .consume kind hash →
      P.threads i = .done (.ok u) → P.threads j = .done (.ok v) → i = j) ∧
    (∀ i kind hash r, ops i = .consume kind hash → P.threads i = .done (.ok r) →
      ∃ u j saved expiresAt newer Q older,
        tr = newer ++ (Q, some (i, consumedEvent kind hash u)) :: older ∧ r = some u ∧
        ops j = .save kind u saved expiresAt ∧ varchar 64 saved = .ok hash ∧
        (j, savedEvent kind u saved expiresAt) ∈ Pool.log older ∧ Q.world.now < expiresAt) ∧
    (∀ i kind hash e, ops i = .consume kind hash → P.threads i = .done (.error e) →
      ∀ x ∈ Run.steps tr P, (∃ event, x.2.1 = some (i, event)) → x.2.2.world = x.1.world) := by
  have hproper := properUse_of_run hr
  refine ⟨?_, ?_, ?_⟩
  · intro i j kind hash u v hi hj hdi hdj
    obtain ⟨u', Q, -, hQ⟩ := consumed_of_done hr hi hdi
    obtain ⟨v', Q', -, hQ'⟩ := consumed_of_done hr hj hdj
    by_contra hne
    have hdiff : (Q, some (i, consumedEvent kind hash u')) ≠
        (Q', some (j, consumedEvent kind hash v')) :=
      fun heq => hne (Prod.mk.inj (Option.some.inj (Prod.mk.inj heq).2)).1
    -- the later one of the two could not find the token
    obtain ⟨newer, older, ⟨rfl, hold⟩ | ⟨rfl, hold⟩⟩ := Run.older_of_mem hQ hQ' hdiff
    · exact (hproper.of_append i kind hash u' rfl).2 j v' (Pool.mem_log.mpr ⟨Q', hold⟩)
    · exact (hproper.of_append j kind hash v' rfl).2 i u' (Pool.mem_log.mpr ⟨Q, hold⟩)
  · intro i kind hash r hop hdone
    obtain ⟨u, Q, rfl, hQ⟩ := consumed_of_done hr hop hdone
    obtain ⟨newer, older, htr, hbefore⟩ := hproper.of_mem hQ
    obtain ⟨⟨j, saved, expiresAt, hstored, hsaved, htime⟩, -⟩ := hbefore i kind hash u rfl
    refine ⟨u, j, saved, expiresAt, newer, Q, older, htr, rfl, ?_, hstored, hsaved, htime⟩
    have hlater : (j, savedEvent kind u saved expiresAt) ∈ Pool.log tr := by
      obtain ⟨Q', hQ'⟩ := Pool.mem_log.mp hsaved
      rw [htr]
      exact Pool.mem_log.mpr ⟨Q', List.mem_append_right _ (List.mem_cons_of_mem _ hQ')⟩
    have hreq := tokens_event hr hlater
    revert hreq
    cases ops j with
    | save k v h t => intro hreq; cases hreq; rfl
    | consume k h => intro hreq; cases hreq
  · rintro i kind hash e hop hdone ⟨Q, l, Q'⟩ hx ⟨event, rfl⟩
    obtain ⟨a, hmine, hout⟩ := tokens_done hr hdone
    have hmem := Run.mem_of_steps hx
    have hevent : event ∈ Pool.mine i (Pool.log tr) :=
      Pool.mem_mine.mpr (Pool.mem_log.mpr ⟨_, hmem⟩)
    rw [hmine] at hevent
    obtain rfl := List.mem_singleton.mp hevent
    have hstep : Pool.Step (Env F) World.Later Q (some (i, _)) Q' := Run.step_of_steps hr _ hx
    cases hstep with
    | run hi hE => exact world_eq_of_failed hop hE hout.symm

end Runs

namespace Scenario

/-- One client saves a token for a password reset, and another one consumes it. -/
def tokenOps : Bool → TokenOp
  | true => .save .passwordReset ⟨901⟩ "digest" (seconds 60)
  | false => .consume .passwordReset "digest"

/-- The two clients, one after the other. -/
def tokensPlayed : List (TokenPool Bool × Pool.Label Bool Req Ans) × TokenPool Bool :=
  Pool.schedule World.answer [true, false] { threads := fun i => (tokenOps i).run, world } []

/-- They are an interleaving. -/
theorem run_tokensPlayed :
    Run (TokenInit tokenOps) (Pool.Step (Env noFault) World.Later) tokensPlayed.1 tokensPlayed.2 :=
  Pool.run_schedule (env_answer noFault) _ (.start ⟨fun _ => rfl, fun kind => by cases kind <;> rfl⟩)

end Scenario

/-- A token is saved and consumed. -/
theorem one_time_tokens_played :
    Scenario.tokensPlayed.2.threads false = .done (.ok (some ⟨901⟩)) ∧
    ∃ u j saved expiresAt newer Q older,
      Scenario.tokensPlayed.1 =
        newer ++ (Q, some (false, consumedEvent .passwordReset "digest" u)) :: older ∧
      some (⟨901⟩ : UserId) = some u ∧
      Scenario.tokenOps j = .save .passwordReset u saved expiresAt ∧
      varchar 64 saved = .ok "digest" ∧
      (j, savedEvent .passwordReset u saved expiresAt) ∈ Pool.log older ∧
      Q.world.now < expiresAt := by
  have hdone : Scenario.tokensPlayed.2.threads false = .done (.ok (some ⟨901⟩)) := rfl
  exact ⟨hdone, (one_time_tokens Scenario.run_tokensPlayed).2.1 false _ _ _ rfl hdone⟩

end Klynt
