import Klynt.System.AccountAccess
import Klynt.System.OneTimeToken

set_option relaxedAutoImplicit false
set_option autoImplicit false

/-!
# What a password reset takes away

A password reset consumes one token and writes one column of one user.  No request gives a token
back that was consumed or has expired, so the digest of the token is spent for good.  Nothing else
is taken away: the other reset tokens of the user stay usable, and the sessions of the user pass as
before.

## Main definitions

* `Db.Spent` — no token with a digest can be consumed any more.

## Main results

* `Env.spent` — no request, and so no program, makes a spent digest usable.
* `reset_effect` — the token of a reset is spent, and all else is as before.
* `resets_leave_credentials` — after a reset another token and an older session of the user go on.
-/

namespace Klynt

/-! ## Spent tokens -/

/-- Tokens with the digest are stored, and none of them can be consumed. -/
def Db.Spent (db : Db) (kind : TokenKind) (hash : String) (now : Time) : Prop :=
  (∃ row ∈ db.tokens kind, row.tokenHash = hash) ∧
    ∀ row ∈ db.tokens kind, row.usable hash now = false

section Spent

variable {db db' : Db} {kind : TokenKind} {hash : String} {now : Time}

/-- A token that cannot be consumed stays so as time passes. -/
lemma EmailVerificationTokenRow.usable_later {row : EmailVerificationTokenRow} {later : Time}
    (h : row.usable hash now = false) (hle : now ≤ later) : row.usable hash later = false := by
  by_contra hlater
  obtain ⟨hhash, hunused, htime⟩ := of_usable (Bool.eq_true_of_not_eq_false hlater)
  have hnow : row.usable hash now = true := by
    simpa [usable, hhash, hunused] using lt_of_le_of_lt hle htime
  rw [h] at hnow
  cases hnow

/-- A token that was consumed cannot be consumed. -/
lemma EmailVerificationTokenRow.usable_consumed (row : EmailVerificationTokenRow) (hash : String)
    (now : Time) : (row.consumed hash now).usable hash now = false := by
  unfold consumed
  split
  · simp [usable]
  · rename_i h
    exact Bool.eq_false_of_not_eq_true h

/-- A token that cannot be consumed stays so when a digest is consumed. -/
lemma EmailVerificationTokenRow.usable_consumed_of_false {row : EmailVerificationTokenRow}
    {hash' : String} (h : row.usable hash now = false) :
    (row.consumed hash' now).usable hash now = false := by
  unfold consumed
  split
  · simp [usable]
  · exact h

/-- The consumption of a digest leaves the tokens with other digests as they are. -/
lemma mem_map_consumed {rows : List EmailVerificationTokenRow} {row : EmailVerificationTokenRow}
    (hother : row.tokenHash ≠ hash) : row ∈ rows.map (·.consumed hash now) ↔ row ∈ rows := by
  have hkept : ∀ row₀ : EmailVerificationTokenRow, row₀.tokenHash ≠ hash →
      row₀.consumed hash now = row₀ := by
    intro row₀ hne
    unfold EmailVerificationTokenRow.consumed
    rw [if_neg fun husable => hne (EmailVerificationTokenRow.of_usable husable).1]
  constructor
  · intro hrow
    obtain ⟨row₀, hrow₀, rfl⟩ := List.mem_map.mp hrow
    rw [EmailVerificationTokenRow.tokenHash_consumed] at hother
    rwa [hkept row₀ hother]
  · intro hrow
    exact List.mem_map.mpr ⟨row, hrow, hkept row hother⟩

/-- What is spent stays so as time passes. -/
lemma Db.Spent.later {later : Time} (h : db.Spent kind hash now) (hle : now ≤ later) :
    db.Spent kind hash later :=
  ⟨h.1, fun row hrow => EmailVerificationTokenRow.usable_later (h.2 row hrow) hle⟩

/-- What is spent depends on the tokens of the kind only. -/
lemma Db.Spent.congr (h : db.Spent kind hash now) (hdb : db'.tokens kind = db.tokens kind) :
    db'.Spent kind hash now := by
  unfold Db.Spent
  rwa [hdb]

/-- The tokens are the same outside the tenant tables. -/
lemma Db.SameAccounts.tokens (h : db.SameAccounts db') : db'.tokens kind = db.tokens kind := by
  obtain ⟨_, _, _, _, _, _, rfl⟩ := h
  cases kind <;> rfl

/-- The tokens of a kind after the consumption of a digest. -/
lemma tokens_consumeToken {kind' : TokenKind} {hash' : String} {r : Option UserId}
    (h : consumeToken kind' hash' now db = .ok (r, db')) :
    db'.tokens kind = (db.tokens kind).map fun row =>
      if kind = kind' then row.consumed hash' now else row := by
  obtain ⟨-, rfl⟩ := Prod.mk.inj (Except.ok.inj h)
  by_cases hkind : kind = kind'
  · subst hkind
    simp only [Db.tokens_withTokens, if_true]
    rfl
  · simp only [Db.tokens_withTokens_of_ne _ _ _ hkind, if_neg hkind, List.map_id']

/-- The consumption of a digest leaves it spent, if a token with the digest is stored. -/
lemma Db.Spent.of_consumeToken {r : Option UserId}
    (h : consumeToken kind hash now db = .ok (r, db'))
    (hstored : ∃ row ∈ db.tokens kind, row.tokenHash = hash) : db'.Spent kind hash now := by
  obtain ⟨row, hrow, hhash⟩ := hstored
  unfold Db.Spent
  rw [tokens_consumeToken h]
  constructor
  · refine ⟨_, List.mem_map_of_mem hrow, ?_⟩
    rw [if_pos rfl, EmailVerificationTokenRow.tokenHash_consumed]
    exact hhash
  · intro row' hrow'
    obtain ⟨row₀, -, rfl⟩ := List.mem_map.mp hrow'
    rw [if_pos rfl]
    exact row₀.usable_consumed hash now

/-- No statement makes a spent digest usable: a token with the digest cannot be stored again, and
the marks of tokens are not taken back. -/
lemma Update.spent {q : Update} {r : q.Res} (h : q.exec now db = .ok (r, db'))
    (hs : db.Spent kind hash now) : db'.Spent kind hash now := by
  have htenancy : q.OnTenancy → db'.Spent kind hash now := fun hq => hs.congr (hq.frame h).tokens
  have hsessions : q.OnSessions → db'.Spent kind hash now := by
    intro hq
    obtain ⟨_, rfl⟩ := hq.frame h
    exact hs.congr (by cases kind <;> rfl)
  cases q with
  | insertUser row =>
    obtain ⟨-, rfl⟩ | ⟨-, -, _, _, _, rfl⟩ := @insertUser_ok now _ _ _ _ h
    · exact hs
    · exact hs.congr (by cases kind <;> rfl)
  | updatePassword v hash =>
    obtain ⟨-, rfl⟩ := updatePassword_ok h
    exact hs.congr (by cases kind <;> rfl)
  | updateUser new =>
    obtain ⟨_, _, _, -, -, -, -, -, rfl⟩ := updateUser_ok h
    exact hs.congr (by cases kind <;> rfl)
  | deleteUser v =>
    obtain ⟨-, rfl⟩ := Prod.mk.inj (Except.ok.inj h)
    exact hs.congr (by cases kind <;> rfl)
  | activateUser v =>
    obtain ⟨-, rfl⟩ := Prod.mk.inj (Except.ok.inj h)
    exact hs.congr (by cases kind <;> rfl)
  | insertToken kind' v hash' expiresAt =>
    obtain ⟨stored, -, hnew, rfl⟩ := @insertToken_ok now _ _ _ _ _ _ h
    by_cases hkind : kind = kind'
    · subst hkind
      obtain ⟨⟨row, hrow, hhash⟩, hall⟩ := hs
      unfold Db.Spent
      rw [Db.tokens_withTokens]
      refine ⟨⟨row, List.mem_append_left _ hrow, hhash⟩, fun row' hrow' => ?_⟩
      rcases List.mem_append.mp hrow' with hrow' | hrow'
      · exact hall row' hrow'
      · -- the new token has a digest that no other token has
        obtain rfl := List.mem_singleton.mp hrow'
        by_contra husable
        obtain ⟨hsame, -⟩ :=
          EmailVerificationTokenRow.of_usable (Bool.eq_true_of_not_eq_false husable)
        exact hnew row hrow (hhash.trans hsame.symm)
    · exact hs.congr (Db.tokens_withTokens_of_ne _ _ _ hkind)
  | consumeToken kind' hash' =>
    obtain ⟨⟨row, hrow, hhash⟩, hall⟩ := hs
    unfold Db.Spent
    rw [tokens_consumeToken h]
    constructor
    · refine ⟨_, List.mem_map_of_mem hrow, ?_⟩
      split
      · rw [EmailVerificationTokenRow.tokenHash_consumed]
        exact hhash
      · exact hhash
    · intro row' hrow'
      obtain ⟨row₀, hrow₀, rfl⟩ := List.mem_map.mp hrow'
      split
      · exact EmailVerificationTokenRow.usable_consumed_of_false (hall row₀ hrow₀)
      · exact hall row₀ hrow₀
  | tenant _ => exact htenancy trivial
  | dropTenant _ => exact htenancy trivial
  | insertMembership _ => exact htenancy trivial
  | membershipRole _ _ _ _ => exact htenancy trivial
  | deleteMembership _ _ => exact htenancy trivial
  | dropRole _ _ => exact htenancy trivial
  | insertInvite _ => exact htenancy trivial
  | acceptInvite _ => exact htenancy trivial
  | insertSession _ _ _ _ _ _ => exact hsessions trivial
  | deleteSession _ => exact hsessions trivial
  | deletePair _ _ => exact hsessions trivial
  | setMemberships _ _ => exact hsessions trivial
  | addSnapshot _ _ => exact hsessions trivial
  | updateSnapshot _ _ => exact hsessions trivial
  | removeSnapshot _ _ => exact hsessions trivial

/-- **No request makes a spent digest usable**, whatever fails. -/
theorem Env.spent {F : Req → Prop} {q : Req} {w w' : World} {a : Ans q} (h : Env F q w a w')
    (hs : w.db.Spent kind hash w.now) : w'.db.Spent kind hash w'.now := by
  cases q with
  | clock => obtain ⟨-, rfl⟩ := h; exact hs
  | uuid => obtain rfl := h; exact hs
  | secureToken => obtain rfl := h; exact hs
  | query q => obtain ⟨rfl, -⟩ := h; exact hs
  | update q =>
    obtain ⟨r, db, hx, -, rfl⟩ | ⟨e, -, -, rfl⟩ | ⟨-, -, rfl⟩ := h
    · exact Update.spent hx hs
    · exact hs
    · exact hs
  | transaction t =>
    obtain ⟨r, db, hx, -, rfl⟩ | ⟨e, -, -, rfl⟩ | ⟨-, -, rfl⟩ := h
    · exact hs.congr (Transaction.frame hx).tokens
    · exact hs
    · exact hs
  | redis c => obtain ⟨-, rfl⟩ | ⟨-, -, _, rfl, -⟩ := h <;> exact hs
  | verifyPassword p s => obtain rfl := h; exact hs
  | hashPassword p => obtain rfl := h; exact hs
  | sendVerification e t b => obtain rfl := h; exact hs
  | sendPasswordReset e t b => obtain rfl := h; exact hs

end Spent

/-! ## Resets -/

section Resets

variable [Unicode] {d : Deployment} {F : Req → Prop} {w w' : World} {kind : TokenKind}
  {hash : String}

/-- **A spent digest stays spent** in every step of a run. -/
lemma AccountStep.spent {l : AccountLabel} (h : AccountStep d F w l w')
    (hs : w.db.Spent kind hash w.now) : w'.db.Spent kind hash w'.now := by
  cases h with
  | call h =>
    exact h.rel
      (R := fun w w' : World => w.db.Spent kind hash w.now → w'.db.Spent kind hash w'.now)
      (fun _ hs => hs) (fun h₁ h₂ hs => h₂ (h₁ hs)) (fun _ _ _ _ _ hE hs => hE.spent hs)
      (Prog.all_true _) hs
  | other h =>
    obtain ⟨_, _, _, hle, -, rfl⟩ := h
    exact (hs.later hle).congr (by cases kind <;> rfl)

omit [Unicode] in
/-- A consumption that returned found a token that could be consumed. -/
lemma exec_consume_ok {u : UserId}
    (h : (PgTokenStore.consume kind hash).Exec (Env F) w (.ok u) w') :
    ((w.db.tokens kind).find? (·.usable hash w.now)).map (·.userId) = some u ∧
      ∃ db, consumeToken kind hash w.now w.db = .ok (some u, db) ∧ w' = { w with db } := by
  obtain ⟨found, w₁, hrun, hfound⟩ := Prog.exec_bind_ok.mp h
  obtain ⟨db, hx, rfl⟩ := exec_execute_ok.mp (Prog.exec_mapErr_ok.mp hrun)
  obtain ⟨⟨v, rfl, hok⟩ | ⟨-, hbad⟩, rfl⟩ := Prog.exec_ofOption.mp hfound
  · obtain rfl := Except.ok.inj hok
    exact ⟨(Prod.mk.inj (Except.ok.inj hx)).1, db, hx, rfl⟩
  · cases hbad

/-- No reset by a token that is spent returns. -/
lemma Db.Spent.not_exec_resetPassword {service : AuthService} {registration : Registration}
    {code newPassword : String}
    (hs : w.db.Spent .passwordReset (service.sha256Hash code) w.now) :
    ¬ (service.resetPassword registration code newPassword).Exec (Env F) w (.ok ()) w' := by
  intro h
  obtain ⟨_, w₁, hvalid, h₁⟩ := Prog.exec_bind_ok.mp h
  obtain ⟨-, rfl⟩ := Prog.exec_done.mp hvalid
  obtain ⟨u, w₂, hconsume, -⟩ := Prog.exec_bind_ok.mp h₁
  obtain ⟨hfound, -⟩ := exec_consume_ok (Prog.exec_mapErr_ok.mp hconsume)
  obtain ⟨row, hrow, -⟩ := Option.map_eq_some_iff.mp hfound
  have husable := List.find?_some hrow
  rw [hs.2 row (List.mem_of_find?_eq_some hrow)] at husable
  cases husable

/-- **What a reset does.** It consumes the token and writes the password of one user. -/
lemma exec_resetPassword {service : AuthService} {registration : Registration}
    {code newPassword : String}
    (h : (service.resetPassword registration code newPassword).Exec (Env F) w (.ok ()) w') :
    (∃ row ∈ w.db.passwordResetTokens, row.usable (service.sha256Hash code) w.now = true) ∧
    ∃ users, w' = { w with db := { w.db with
      users
      passwordResetTokens :=
        w.db.passwordResetTokens.map (·.consumed (service.sha256Hash code) w.now) } } := by
  obtain ⟨_, w₁, hvalid, h₁⟩ := Prog.exec_bind_ok.mp h
  obtain ⟨-, rfl⟩ := Prog.exec_done.mp hvalid
  obtain ⟨u, w₂, hconsume, h₂⟩ := Prog.exec_bind_ok.mp h₁
  obtain ⟨hfound, db, hx, rfl⟩ := exec_consume_ok (Prog.exec_mapErr_ok.mp hconsume)
  obtain ⟨row, hrow, -⟩ := Option.map_eq_some_iff.mp hfound
  obtain ⟨-, rfl⟩ := Prod.mk.inj (Except.ok.inj hx)
  obtain ⟨hashed, w₃, ⟨_, _, rfl, -, rfl⟩, h₃⟩ := Prog.exec_bind_ok.mp h₂
  obtain ⟨passwordHash, w₄, hhash, h₄⟩ := Prog.exec_bind_ok.mp h₃
  obtain ⟨-, rfl⟩ := Prog.exec_done.mp hhash
  obtain ⟨rows, w₅, hupdate, hrows⟩ := Prog.exec_bind_ok.mp (Prog.exec_mapErr_ok.mp h₄)
  obtain ⟨db', hwritten, rfl⟩ := exec_execute_ok.mp (Prog.exec_mapErr_ok.mp hupdate)
  obtain ⟨-, rfl⟩ := updatePassword_ok hwritten
  obtain ⟨-, rfl⟩ := Prog.exec_rejectIf.mp hrows
  have husable : row.usable (service.sha256Hash code) w₁.now = true := by
    simpa using List.find?_some hrow
  exact ⟨⟨row, List.mem_of_find?_eq_some hrow, husable⟩, _, rfl⟩

/-- **What a password reset takes away.** A reset that returned found a token that could be
consumed, and in no later state of the run does a reset by a token with its digest return.  The
other reset tokens stay as they were, and so do the sessions and the cache: whether a token passes
is answered as before.

**Proof sketch.** The reset consumes its digest, and no step makes a spent digest usable.  Apart
from that it writes users, and the validation of a token looks at sessions, the cache and the clock
only. -/
theorem reset_effect {init : World → Prop} {tr : List (World × AccountLabel)}
    (hrun : Run init (AccountStep d F) tr w) {w₁ w₂ : World} {code newPassword : String}
    (hstep : (w₁, .call (.resetPassword code newPassword) (.ok ()), w₂) ∈ Run.steps tr w) :
    (∃ row ∈ w₁.db.passwordResetTokens, row.usable (d.sha256Hash code) w₁.now = true) ∧
    (∀ code' newPassword' w', d.sha256Hash code' = d.sha256Hash code →
      ¬ (d.services.auth.resetPassword d.services.registration code' newPassword').Exec (Env F) w
        (.ok ()) w') ∧
    (∀ row, row.tokenHash ≠ d.sha256Hash code →
      (row ∈ w₂.db.passwordResetTokens ↔ row ∈ w₁.db.passwordResetTokens)) ∧
    w₂.db.sessions = w₁.db.sessions ∧ w₂.redis = w₁.redis ∧
    ∀ token r, (∃ w', (d.services.session.validateAccess token).Exec (Env F) w₂ r w') ↔
      ∃ w', (d.services.session.validateAccess token).Exec (Env F) w₁ r w' := by
  have hreset : (d.services.auth.resetPassword d.services.registration code newPassword).Exec (Env F)
      w₁ (.ok ()) w₂ := by
    cases hrun.step_of_steps _ hstep with
    | call h => exact h
  obtain ⟨⟨row, hrow, husable⟩, users, hw₂⟩ := exec_resetPassword hreset
  obtain ⟨newer, hnewer⟩ := hrun.run_of_steps hstep
  have hhash := (EmailVerificationTokenRow.of_usable husable).1
  have hspent : w₂.db.Spent .passwordReset (d.sha256Hash code) w₂.now := by
    rw [hw₂]
    exact (@Db.Spent.of_consumeToken w₁.db _ .passwordReset _ w₁.now _ rfl
      ⟨row, hrow, hhash⟩).congr rfl
  have hlater : w.db.Spent .passwordReset (d.sha256Hash code) w.now := by
    refine hnewer.invariant (I := fun w : World => w.db.Spent .passwordReset (d.sha256Hash code)
      w.now) ?_ fun _ _ _ hs hnext => hnext.spent hs
    rintro _ rfl
    exact hspent
  refine ⟨⟨row, hrow, husable⟩, ?_, ?_, by rw [hw₂], by rw [hw₂], fun token r => ⟨?_, ?_⟩⟩
  · intro code' newPassword' w' hcode hagain
    rw [← hcode] at hlater
    exact hlater.not_exec_resetPassword hagain
  · intro row' hother
    rw [hw₂]
    exact mem_map_consumed hother
  · -- the state before is the one after, with the database before
    rintro ⟨w', hvalid⟩
    have hback : w₁ = { w₂ with db := w₁.db } := by rw [hw₂]
    rw [hback]
    exact validateAccess_congr hvalid (by rw [hw₂])
  · rintro ⟨w', hvalid⟩
    rw [hw₂]
    exact validateAccess_congr hvalid rfl

end Resets

namespace Scenario

/-- Requests are answered as usual, but the generated token is `"second"`. -/
def answerSecond (q : Req) (w : World) : Ans q × World :=
  match q with
  | .secureToken => ("second", w)
  | q => World.answer q w

/-- The environment allows such answers. -/
lemma env_answerSecond (F : Req → Prop) (q : Req) (w : World) :
    Env F q w (answerSecond q w).1 (answerSecond q w).2 := by
  cases q with
  | secureToken => rfl
  | _ => exact env_answer F _ w

/-- The first user requests a password reset. -/
def resetRequest : AccountCall := .requestPasswordReset "ada@x.org"

/-- The first user has requested a password reset, by the empty token. -/
def resetRequested : World := (asked resetRequest world).2

/-- The outcome of a second request, and the world after it. -/
def secondRequest : Except AuthError Unit × World :=
  letI := Unicode.ascii
  (resetRequest.run deployment.services).eval answerSecond resetRequested

/-- The first user has logged in, and a second has passed. -/
def credentialsIssued : World := { (asked login secondRequest.2).2 with now := 1 }

/-- The first user resets the password by the empty token. -/
def reset : AccountCall := .resetPassword "" "Correct7horse"

/-- The first user resets the password again, by the second token. -/
def secondReset : AccountCall := .resetPassword "second" "Correct8horse"

/-- What happens until the reset. -/
def resetHistory : List (World × AccountLabel) :=
  [(credentialsIssued, .call reset (.ok ())), ((asked login secondRequest.2).2, .other),
   (secondRequest.2, .call login (asked login secondRequest.2).1),
   (resetRequested, .call resetRequest secondRequest.1),
   (world, .call resetRequest (asked resetRequest world).1)]

/-- The state after the reset. -/
def passwordReset : World := (asked reset credentialsIssued).2

/-- That is a run. -/
theorem run_resetHistory :
    Run (· = world) (@AccountStep Unicode.ascii deployment noFault) resetHistory passwordReset := by
  have hreset : (asked reset credentialsIssued).1.isOk = true := by decide +kernel
  obtain ⟨_, hreset⟩ := exec_asked_ok hreset
  refine .snoc (.snoc (.snoc (.snoc (.snoc (.start rfl) ?_) ?_) ?_) ?_) ?_
  · exact @AccountStep.call Unicode.ascii _ _ _ _ _ _ (exec_asked rfl)
  · exact @AccountStep.call Unicode.ascii _ _ _ _ _ _ (Prog.exec_eval (env_answerSecond noFault))
  · exact @AccountStep.call Unicode.ascii _ _ _ _ _ _ (exec_asked rfl)
  · refine @AccountStep.other Unicode.ascii _ _ _ _ ⟨1, _, _, ?_, ?_, rfl⟩
    · decide +kernel
    · exact List.forall₂_same.mpr fun _ _ => ⟨rfl, rfl⟩
  · exact @AccountStep.call Unicode.ascii _ _ _ _ _ _ hreset

end Scenario

/-- The token of the reset is spent, and the session is answered as before. -/
theorem reset_effect_second :
    (∀ newPassword w', ¬ (@AuthService.resetPassword Unicode.ascii Scenario.deployment.services.auth
      Scenario.deployment.services.registration "" newPassword).Exec (Env noFault)
        Scenario.passwordReset (.ok ()) w') ∧
    ∀ r, (∃ w', (Scenario.deployment.services.session.validateAccess ⟨1⟩).Exec (Env noFault)
        Scenario.passwordReset r w') ↔
      ∃ w', (Scenario.deployment.services.session.validateAccess ⟨1⟩).Exec (Env noFault)
        Scenario.credentialsIssued r w' := by
  obtain ⟨-, hspent, -, -, -, hvalid⟩ := @reset_effect Unicode.ascii Scenario.deployment noFault _ _ _
    Scenario.run_resetHistory Scenario.credentialsIssued Scenario.passwordReset "" "Correct7horse"
    List.mem_cons_self
  exact ⟨fun newPassword w' => hspent "" newPassword w' rfl, hvalid ⟨1⟩⟩

/-- **Credentials from before a reset.**  The first user requests a reset twice and logs in; a
second later a reset by the first token returns.  Afterwards the second token is still consumed, and
the session still passes. -/
theorem resets_leave_credentials :
    Run (· = Scenario.world) (@AccountStep Unicode.ascii Scenario.deployment noFault)
      Scenario.resetHistory Scenario.passwordReset ∧
    (Scenario.credentialsIssued, .call Scenario.reset (.ok ()), Scenario.passwordReset) ∈
      Run.steps Scenario.resetHistory Scenario.passwordReset ∧
    (∀ row ∈ Scenario.credentialsIssued.db.passwordResetTokens, row.userId = Scenario.ada) ∧
    (∀ row ∈ Scenario.credentialsIssued.db.sessions,
      row.createdAt < Scenario.credentialsIssued.now) ∧
    (∃ w', (@AccountCall.run Unicode.ascii Scenario.deployment.services Scenario.secondReset).Exec
      (Env noFault) Scenario.passwordReset (.ok ()) w') ∧
    ∃ session w', (Scenario.deployment.services.session.validateAccess ⟨1⟩).Exec (Env noFault)
      Scenario.passwordReset (.ok session) w' ∧ session.userId = Scenario.ada := by
  refine ⟨Scenario.run_resetHistory, List.mem_cons_self, ?_, ?_, ?_, ?_⟩
  · have hall : (Scenario.credentialsIssued.db.passwordResetTokens.all
        (·.userId = Scenario.ada)) = true := by decide +kernel
    exact fun row hrow => of_decide_eq_true (List.all_eq_true.mp hall row hrow)
  · have hall : (Scenario.credentialsIssued.db.sessions.all
        (·.createdAt < Scenario.credentialsIssued.now)) = true := by decide +kernel
    exact fun row hrow => of_decide_eq_true (List.all_eq_true.mp hall row hrow)
  · have hagain : (Scenario.asked Scenario.secondReset Scenario.passwordReset).1.isOk = true := by
      decide +kernel
    obtain ⟨_, hagain⟩ := Scenario.exec_asked_ok hagain
    exact ⟨_, hagain⟩
  · have hold : ((Scenario.deployment.services.session.validateAccess ⟨1⟩).eval World.answer
        Scenario.passwordReset).1.toOption.any (·.userId = Scenario.ada) = true := by decide +kernel
    obtain ⟨session, hsession, hada⟩ := (Option.any_eq_true _ _).mp hold
    exact ⟨session, _, exec_answer (toOption_eq_some.mp hsession), of_decide_eq_true hada⟩

end Klynt
