import Klynt.Lib.Wp
import Klynt.Service.CleanupJob

set_option relaxedAutoImplicit false
set_option autoImplicit false

/-!
# What the cleanup job deletes

Alone, the job deletes the expired rows of a table up to a number of batches, and counts them. 
Beside other transactions it still deletes expired rows only.

## Main definitions

* `Purged` — what a purge has done to a table, and what it reports.
* `Elsewhere` — what other transactions do: they insert and delete rows.

## Main results

* `CleanupJob.eval_purge` — a purge that runs alone.
* `time_of_deleted` — a job beside others.
* `cleanup_deletes_expired` — what the job deletes, alone and beside others.
-/

namespace Klynt

/-! ## One batch -/

/-- The expired rows. -/
def expiredRows (rows : List RetainedRow) (cutoff : Time) : List RetainedRow :=
  rows.filter (·.time < cutoff)

section Batch

variable {rows : List RetainedRow} {cutoff : Time} {limit : ℕ} {row : RetainedRow}

/-- The rows with the chosen ids are the chosen rows. -/
lemma mem_victims_iff (hids : (rows.map (·.id)).Nodup) :
    row ∈ victims rows cutoff limit ↔
      row ∈ (sortBy (·.id.toNat) (expiredRows rows cutoff)).take limit := by
  unfold victims chosenIds
  rw [List.mem_filter, decide_eq_true_eq, List.mem_map]
  constructor
  · rintro ⟨hrow, chosen, hchosen, hid⟩
    have hmem : chosen ∈ rows :=
      List.mem_of_mem_filter ((sortBy_perm _ _).mem_iff.mp (List.mem_of_mem_take hchosen))
    rwa [← List.inj_on_of_nodup_map hids hmem hrow hid]
  · intro hchosen
    have hmem : row ∈ rows :=
      List.mem_of_mem_filter ((sortBy_perm _ _).mem_iff.mp (List.mem_of_mem_take hchosen))
    exact ⟨hmem, row, hchosen, rfl⟩

/-- **Only expired rows are chosen.** -/
lemma time_of_mem_victims (hids : (rows.map (·.id)).Nodup) (h : row ∈ victims rows cutoff limit) :
    row.time < cutoff := by
  have hmem := (sortBy_perm _ _).mem_iff.mp (List.mem_of_mem_take ((mem_victims_iff hids).mp h))
  exact of_decide_eq_true (List.mem_filter.mp hmem).2

/-- **As many rows are chosen as there are**, up to the limit. -/
lemma length_victims (cutoff : Time) (limit : ℕ) (hids : (rows.map (·.id)).Nodup) :
    (victims rows cutoff limit).length = min limit (expiredRows rows cutoff).length := by
  have hrows : rows.Nodup := hids.of_map
  have hsorted : (sortBy (·.id.toNat) (expiredRows rows cutoff)).Nodup :=
    (sortBy_perm _ _).nodup_iff.mpr (hrows.filter _)
  have hperm : (victims rows cutoff limit).Perm
      ((sortBy (·.id.toNat) (expiredRows rows cutoff)).take limit) :=
    (List.perm_ext_iff_of_nodup (hrows.filter _) (hsorted.sublist (List.take_sublist _ _))).mpr
      fun row => mem_victims_iff hids
  rw [hperm.length_eq, List.length_take, (sortBy_perm _ _).length_eq]

/-- Rows are split by a list of rows. -/
lemma length_split (rows deleted : List RetainedRow) :
    (rows.filter (· ∈ deleted)).length + (rows.filter (· ∉ deleted)).length = rows.length := by
  rw [List.length_eq_length_filter_add (l := rows) (· ∈ deleted)]
  congr 2
  exact List.filter_congr fun row _ => by simp

/-- The chosen rows, picked from all rows. -/
lemma filter_mem_victims :
    rows.filter (· ∈ victims rows cutoff limit) = victims rows cutoff limit := by
  refine List.filter_congr fun row hrow => ?_
  simp [victims, List.mem_filter, hrow]

/-- The chosen rows, picked from the expired rows. -/
lemma filter_expiredRows (hids : (rows.map (·.id)).Nodup) :
    (expiredRows rows cutoff).filter (· ∈ victims rows cutoff limit) =
      victims rows cutoff limit := by
  unfold expiredRows
  rw [List.filter_filter]
  refine (List.filter_congr fun row hrow => ?_).trans filter_mem_victims
  by_cases h : row ∈ victims rows cutoff limit
  · simp [h, time_of_mem_victims hids h]
  · simp [h]

end Batch

/-! ## A purge that runs alone -/

/-- **What a purge has done**, where up to `cap` rows may be deleted. -/
structure Purged (t : RetainedTable) (cutoff : Time) (cap : ℕ) (w w' : CleanupWorld)
    (totalDeleted : ℕ) : Prop where
  /-- The other tables are as they were. -/
  others : ∀ t' ≠ t, w'.rows t' = w.rows t'
  /-- Rows are only deleted. -/
  sublist : (w'.rows t).Sublist (w.rows t)
  /-- The deleted rows had expired. -/
  expired : ∀ row ∈ w.rows t, row ∉ w'.rows t → row.time < cutoff
  /-- The deleted rows are counted. -/
  counted : totalDeleted + (w'.rows t).length = (w.rows t).length
  /-- All expired rows are deleted, up to the cap. -/
  total : totalDeleted = min (expiredRows (w.rows t) cutoff).length cap
  /-- Unless the iteration limit is logged, no expired row is left. -/
  complete : w'.log = w.log → ∀ row ∈ w'.rows t, cutoff ≤ row.time
  /-- Nothing but the iteration limit is logged. -/
  logs : w'.log = w.log ∨ ∃ line, w'.log = w.log ++ [line]

/-- The answers of a run alone. -/
def CleanupAlone (q : CleanupReq) (w : CleanupWorld) (a : CleanupAns q) (w' : CleanupWorld) : Prop :=
  (a, w') = CleanupWorld.answer q w

section Alone

variable (job : CleanupJob) (now : Time) {t : RetainedTable} {cutoff : Time} {w : CleanupWorld}

/-- The state after a batch. -/
def CleanupWorld.afterBatch (w : CleanupWorld) (t : RetainedTable) (cutoff : Time) (limit : ℕ) :
    CleanupWorld :=
  w.without t (victims (w.rows t) cutoff limit)

/-- The rows of the table after a batch. -/
lemma rows_afterBatch (limit : ℕ) : (w.afterBatch t cutoff limit).rows t =
    (w.rows t).filter (· ∉ victims (w.rows t) cutoff limit) :=
  Function.update_self ..

/-- A batch that runs alone. -/
lemma CleanupJob.exec_runOneBatch (t : RetainedTable) (cutoff : Time) (w : CleanupWorld) :
    (job.runOneBatch t cutoff).Exec CleanupAlone w
    (.ok (victims (w.rows t) cutoff job.batchSize).length) (w.afterBatch t cutoff job.batchSize) := by
  refine Prog.exec_bind_ok.mpr
    ⟨victims (w.rows t) cutoff job.batchSize, w, ⟨_, w, rfl, rfl, rfl⟩, ?_⟩
  refine ⟨_, _, rfl, ?_, rfl⟩
  rw [filter_mem_victims]

/-- The rows of the table are those that are chosen and those that are left. -/
lemma length_afterBatch (w : CleanupWorld) (t : RetainedTable) (cutoff : Time) (limit : ℕ) :
    (victims (w.rows t) cutoff limit).length + ((w.afterBatch t cutoff limit).rows t).length =
      (w.rows t).length := by
  have hsplit := length_split (w.rows t) (victims (w.rows t) cutoff limit)
  rwa [filter_mem_victims, ← rows_afterBatch] at hsplit

/-- **What a batch leaves of the expired rows.** -/
lemma length_expired_afterBatch (w : CleanupWorld) (t : RetainedTable) (cutoff : Time)
    (limit : ℕ) :
    (expiredRows ((w.afterBatch t cutoff limit).rows t) cutoff).length =
      (expiredRows (w.rows t) cutoff).length - limit := by
  have hids := w.ids_nodup t
  have hleft : expiredRows ((w.afterBatch t cutoff limit).rows t) cutoff =
      (expiredRows (w.rows t) cutoff).filter (· ∉ victims (w.rows t) cutoff limit) := by
    rw [rows_afterBatch]
    exact List.filter_comm ..
  have hsplit := length_split (expiredRows (w.rows t) cutoff)
    (victims (w.rows t) cutoff limit)
  rw [filter_expiredRows hids, length_victims cutoff limit hids] at hsplit
  rw [hleft]
  omega

/-- The rows that a batch deletes have expired. -/
lemma expired_afterBatch {limit : ℕ} {row : RetainedRow} (hrow : row ∈ w.rows t)
    (hgone : row ∉ (w.afterBatch t cutoff limit).rows t) : row.time < cutoff := by
  by_contra htime
  refine hgone ?_
  rw [rows_afterBatch, List.mem_filter, decide_eq_true_eq]
  exact ⟨hrow, fun hmem => htime (time_of_mem_victims (w.ids_nodup t) hmem)⟩

/-- The rows that a batch leaves were there. -/
lemma sublist_afterBatch (limit : ℕ) :
    ((w.afterBatch t cutoff limit).rows t).Sublist (w.rows t) := by
  rw [rows_afterBatch]
  exact List.filter_sublist

/-- A batch leaves the other tables as they are. -/
lemma afterBatch_of_ne {limit : ℕ} {t' : RetainedTable} (ht : t' ≠ t) :
    (w.afterBatch t cutoff limit).rows t' = w.rows t' :=
  Function.update_of_ne ht ..

/-- If no row has expired, the rows are recent. -/
lemma recent_of_length {rows : List RetainedRow} (h : (expiredRows rows cutoff).length = 0) :
    ∀ row ∈ rows, cutoff ≤ row.time := by
  intro row hrow
  by_contra htime
  have hmem : row ∈ expiredRows rows cutoff :=
    List.mem_filter.mpr ⟨hrow, decide_eq_true (not_le.mp htime)⟩
  rw [List.length_eq_zero_iff.mp h] at hmem
  cases hmem

/-- **A batch that is not full** ends the purge: no expired row is left. -/
lemma purged_last {limit cap : ℕ} (hcap : limit ≤ cap)
    (hlast : (victims (w.rows t) cutoff limit).length < limit) :
    Purged t cutoff cap w (w.afterBatch t cutoff limit)
      (victims (w.rows t) cutoff limit).length := by
  have hlength := length_victims cutoff limit (w.ids_nodup t)
  have hleft := length_expired_afterBatch w t cutoff limit
  exact ⟨fun t' ht => afterBatch_of_ne ht, sublist_afterBatch limit,
    fun row hrow hgone => expired_afterBatch hrow hgone, length_afterBatch w t cutoff limit, by omega,
    fun _ => recent_of_length (by omega), .inl rfl⟩

/-- **A full batch**, and what is purged after it. -/
lemma Purged.after_full {limit cap totalDeleted : ℕ} {w' : CleanupWorld}
    (h : Purged t cutoff cap (w.afterBatch t cutoff limit) w' totalDeleted)
    (hfull : ¬ (victims (w.rows t) cutoff limit).length < limit) :
    Purged t cutoff (limit + cap) w w'
      ((victims (w.rows t) cutoff limit).length + totalDeleted) := by
  have hlength := length_victims cutoff limit (w.ids_nodup t)
  have hleft := length_expired_afterBatch w t cutoff limit
  have hcounted := length_afterBatch w t cutoff limit
  refine ⟨fun t' ht => (h.others t' ht).trans (afterBatch_of_ne ht),
    h.sublist.trans (sublist_afterBatch limit), fun row hrow hgone => ?_, ?_, ?_, h.complete, h.logs⟩
  · by_cases hmem : row ∈ (w.afterBatch t cutoff limit).rows t
    · exact h.expired row hmem hgone
    · exact expired_afterBatch hrow hmem
  · have hrest := h.counted
    omega
  · have hrest := h.total
    omega

/-- **The loop.**

**Proof sketch.** Induction on the iterations that are left.  A full batch takes as many expired
rows away as the cap loses, and the rest of the loop starts with what is left; a batch that is not
full has taken all of them. -/
lemma CleanupJob.exec_purgeLoop (t : RetainedTable) (cutoff : Time) (iterations totalDeleted : ℕ)
    (w : CleanupWorld) :
    ∃ deleted w', (job.purgeLoop t (job.runOneBatch t cutoff) iterations totalDeleted).Exec
        CleanupAlone w (.ok (totalDeleted + deleted)) w' ∧
      Purged t cutoff (iterations * job.batchSize) w w' deleted := by
  induction iterations generalizing totalDeleted w with
  | zero =>
    refine ⟨0, w.logged (.iterationLimit t totalDeleted), ?_, ?_⟩
    · exact Prog.exec_bind_ok.mpr ⟨(), _, ⟨(), _, rfl, rfl, rfl⟩, rfl, rfl⟩
    · refine ⟨fun t' _ => rfl, List.Sublist.refl _, fun row hrow hgone => absurd hrow hgone,
        Nat.zero_add _, by omega, fun hlog => ?_, .inr ⟨_, rfl⟩⟩
      exact absurd (List.append_right_eq_self.mp hlog) (List.cons_ne_nil _ _)
  | succ iterations ih =>
    have hbatch := job.exec_runOneBatch t cutoff w
    by_cases hlast : (victims (w.rows t) cutoff job.batchSize).length < job.batchSize
    · refine ⟨_, _, Prog.exec_bind_ok.mpr ⟨_, _, hbatch, ?_⟩, purged_last ?_ hlast⟩
      · rw [if_pos hlast]
        exact ⟨rfl, rfl⟩
      · exact Nat.le_mul_of_pos_left _ (Nat.succ_pos _)
    · obtain ⟨deleted, w', hexec, hpurged⟩ :=
        ih (totalDeleted + (victims (w.rows t) cutoff job.batchSize).length)
          (w.afterBatch t cutoff job.batchSize)
      refine ⟨(victims (w.rows t) cutoff job.batchSize).length + deleted, w',
        Prog.exec_bind_ok.mpr ⟨_, _, hbatch, ?_⟩, ?_⟩
      · rw [if_neg hlast, ← Nat.add_assoc]
        exact hexec
      · rw [Nat.succ_mul, Nat.add_comm]
        exact hpurged.after_full hlast

/-- **A purge that runs alone.** -/
lemma CleanupJob.eval_purge (t : RetainedTable) (w : CleanupWorld) :
    ∃ totalDeleted w', (job.purge now t).eval CleanupWorld.answer w = (.ok totalDeleted, w') ∧
      Purged t (job.cutoff now t) (1000 * job.batchSize) w w' totalDeleted := by
  obtain ⟨deleted, w', hexec, hpurged⟩ :=
    job.exec_purgeLoop t (job.cutoff now t) 1000 0 w
  rw [Nat.zero_add] at hexec
  exact ⟨deleted, w', ((Prog.exec_iff_eval fun _ _ _ _ => Iff.rfl).mp hexec).symm, hpurged⟩

end Alone

/-! ## Beside others -/

/-- What others do to the tables: a row is inserted, or rows are deleted. -/
inductive Elsewhere : CleanupWorld → CleanupWorld → Prop
  /-- A row is inserted. -/
  | inserted (w : CleanupWorld) (t : RetainedTable) (row : RetainedRow)
      (hid : row.id ∉ (w.rows t).map (·.id)) : Elsewhere w (w.insert t row hid)
  /-- Rows are deleted. -/
  | deleted (w : CleanupWorld) (t : RetainedTable) (rows : List RetainedRow) :
      Elsewhere w (w.without t rows)

/-- The answers beside others: a statement may also fail. -/
inductive CleanupEnv : (q : CleanupReq) → CleanupWorld → CleanupAns q → CleanupWorld → Prop
  /-- It is done. -/
  | done (q : CleanupReq) (w : CleanupWorld) :
      CleanupEnv q w (CleanupWorld.answer q w).1 (CleanupWorld.answer q w).2
  /-- No snapshot is taken. -/
  | notChosen (t : RetainedTable) (cutoff : Time) (limit : ℕ) (w : CleanupWorld) (e : SqlxError) :
      CleanupEnv (.choose t cutoff limit) w (.error e) w
  /-- Nothing is deleted. -/
  | notDeleted (t : RetainedTable) (rows : List RetainedRow) (w : CleanupWorld) (e : SqlxError) :
      CleanupEnv (.delete t rows) w (.error e) w

section Answers

variable {w w' : CleanupWorld} {t : RetainedTable} {row : RetainedRow}

/-- The rows that are left. -/
lemma mem_without {t' : RetainedTable} {deleted : List RetainedRow} :
    row ∈ (w.without t' deleted).rows t ↔ row ∈ w.rows t ∧ (t = t' → row ∉ deleted) := by
  by_cases ht : t = t'
  · subst ht
    simp [CleanupWorld.without]
  · simp [CleanupWorld.without, ht]

/-- A row is deleted by a statement that names it. -/
lemma CleanupEnv.mem_of_deleted {q : CleanupReq} {a : CleanupAns q} (h : CleanupEnv q w a w')
    (hrow : row ∈ w.rows t) (hgone : row ∉ w'.rows t) :
    ∃ rows, q = .delete t rows ∧ row ∈ rows := by
  cases h with
  | notChosen => exact absurd hrow hgone
  | notDeleted => exact absurd hrow hgone
  | done =>
    cases q with
    | choose => exact absurd hrow hgone
    | log => exact absurd hrow hgone
    | delete t' rows =>
      by_contra hnot
      refine hgone (mem_without.mpr ⟨hrow, fun ht hmem => hnot ⟨rows, ?_, hmem⟩⟩)
      rw [ht]

/-- A row that was chosen had expired. -/
lemma CleanupEnv.time_of_chosen {cutoff : Time} {limit : ℕ} {rows : List RetainedRow}
    (h : CleanupEnv (.choose t cutoff limit) w (.ok rows) w') (hrow : row ∈ rows) :
    row.time < cutoff := by
  cases h with
  | done => exact time_of_mem_victims (w.ids_nodup t) hrow

end Answers

/-- Jobs over the tables. -/
abbrev CleanupPool (ι : Type) : Type := Pool ι CleanupReq CleanupAns SqlxError Unit CleanupWorld

/-- The steps of jobs beside others. -/
abbrev CleanupStep {ι : Type} [DecidableEq ι] :
    CleanupPool ι → Pool.Label ι CleanupReq CleanupAns → CleanupPool ι → Prop :=
  Pool.Step CleanupEnv Elsewhere

/-- Jobs that are about to start. -/
def CleanupInit {ι : Type} (job : CleanupJob) (now : ι → Time) (P : CleanupPool ι) : Prop :=
  ∀ i, P.threads i = job.runOnce (now i)

/-- What a job deletes was chosen before, by the cutoff of the table. -/
def ChosenBefore (job : CleanupJob) (now : Time) (seen : List (Prog.Event CleanupReq CleanupAns)) :
    CleanupReq → Prop
  | .delete t rows => ⟨.choose t (job.cutoff now t) job.batchSize, .ok rows⟩ ∈ seen
  | _ => True

section Beside

variable (job : CleanupJob) (now : Time)

/-- The loop deletes what was chosen. -/
lemma CleanupJob.traced_purgeLoop (t : RetainedTable) (iterations totalDeleted : ℕ)
    (seen : List (Prog.Event CleanupReq CleanupAns)) :
    (job.purgeLoop t (job.runOneBatch t (job.cutoff now t)) iterations totalDeleted).Traced
      (ChosenBefore job now) (fun _ _ => True) seen := by
  induction iterations generalizing totalDeleted seen with
  | zero =>
    refine Prog.wp_bind.mpr (Prog.wp_ask.mpr ⟨trivial, fun a seen' _ => ?_⟩)
    exact Prog.wp_done.mpr (Prog.wp_done.mpr trivial)
  | succ iterations ih =>
    have hbatch : (job.runOneBatch t (job.cutoff now t)).Traced (ChosenBefore job now)
        (fun _ _ => True) seen := by
      refine Prog.wp_bind.mpr (Prog.wp_ask.mpr ⟨trivial, ?_⟩)
      rintro (e | rows) seen' rfl
      · exact Prog.wp_done.mpr trivial
      · refine Prog.wp_done.mpr (Prog.wp_ask.mpr ⟨List.mem_cons_self, fun a seen' _ => ?_⟩)
        exact Prog.wp_done.mpr trivial
    refine hbatch.bind_guarded fun deleted seen' _ => ?_
    split
    · exact Prog.wp_done.mpr trivial
    · exact ih _ _

/-- A job deletes what was chosen. -/
lemma CleanupJob.traced_runOnce (seen : List (Prog.Event CleanupReq CleanupAns)) :
    (job.runOnce now).Traced (ChosenBefore job now) (fun _ _ => True) seen := by
  have hpurge : ∀ t seen', (job.purge now t).Traced (ChosenBefore job now) (fun _ _ => True) seen' :=
    fun t seen' => job.traced_purgeLoop now t 1000 0 seen'
  refine (hpurge _ _).bind_guarded fun _ seen₁ _ => ?_
  refine (hpurge _ _).bind_guarded fun _ seen₂ _ => ?_
  refine (hpurge _ _).bind_guarded fun _ seen₃ _ => ?_
  exact Prog.wp_ask.mpr ⟨trivial, fun _ _ _ => Prog.wp_done.mpr trivial⟩

variable {ι : Type} [DecidableEq ι] {starts : ι → Time} {P P' : CleanupPool ι}
  {tr : List (CleanupPool ι × Pool.Label ι CleanupReq CleanupAns)} {i : ι}

/-- **A job only deletes rows that were chosen**, also beside others.

**Proof sketch.** The rows of the statement are in the history of the job, where they were answered
to the choice by the cutoff.  Only expired rows are chosen, and a row does not change. -/
lemma time_of_deleted (hr : Run (CleanupInit job starts) CleanupStep tr P)
    {event : Prog.Event CleanupReq CleanupAns} (hstep : CleanupStep P (some (i, event)) P')
    {t : RetainedTable} {row : RetainedRow} (hrow : row ∈ P.world.rows t)
    (hgone : row ∉ P'.world.rows t) : row.time < job.cutoff (starts i) t := by
  have htraced : (P.threads i).Traced (ChosenBefore job (starts i)) (fun _ _ => True)
      (Pool.mine i (Pool.log tr)) := by
    refine Pool.traced_of_run (J := fun i => ChosenBefore job (starts i))
      (Q := fun _ _ _ => True) (fun P₀ hinit j => ?_) hr i
    rw [hinit j]
    exact job.traced_runOnce (starts j) []
  cases hstep with
  | run hi hE =>
    rw [hi] at htraced
    obtain ⟨rows, rfl, hmem⟩ := hE.mem_of_deleted hrow hgone
    -- the choice is a step of the run
    obtain ⟨Q, hQ⟩ := Pool.mem_log.mp (Pool.mem_mine.mp (Prog.wp_ask.mp htraced).1)
    obtain ⟨_, _, m, _, _, hchoice, _⟩ := hr.of_mem hQ
    cases hchoice with
    | run _ hanswer => exact hanswer.time_of_chosen hmem

end Beside

/-! ## The result -/

/-- **The cleanup job deletes expired rows.**  A purge that runs alone deletes the expired rows of
its table, up to 1000 batches, and returns how many; beside others, a job deletes expired rows only.

**Proof sketch.** Alone, by induction on the iterations of the loop.  Beside others, what a
statement deletes was chosen by the cutoff. -/
theorem cleanup_deletes_expired (job : CleanupJob) :
    (∀ now t w, ∃ totalDeleted w',
      (job.purge now t).eval CleanupWorld.answer w = (.ok totalDeleted, w') ∧
        Purged t (job.cutoff now t) (1000 * job.batchSize) w w' totalDeleted) ∧
    ∀ (ι : Type) [DecidableEq ι] (starts : ι → Time) tr (P : CleanupPool ι),
      Run (CleanupInit job starts) CleanupStep tr P → ∀ i event P',
        CleanupStep P (some (i, event)) P' → ∀ t, ∀ row ∈ P.world.rows t,
          row ∉ P'.world.rows t → row.time < job.cutoff (starts i) t :=
  ⟨fun now t w => job.eval_purge now t w, fun _ _ _ _ _ hr _ _ _ hstep _ _ hrow hgone =>
    time_of_deleted job hr hstep hrow hgone⟩

/-! ## Scenario -/

/-- Three sessions, two of which have expired at time 20. -/
def Scenario.retained : CleanupWorld where
  rows
    | .sessions => [⟨1, 10⟩, ⟨2, 30⟩, ⟨3, 11⟩]
    | _ => []
  ids_nodup t := by cases t <;> decide
  log := []

/-- Rows are deleted one at a time. -/
def Scenario.oneByOne : CleanupJob where
  batchSize := 1

/-- Single rows are deleted until none is left that has expired. -/
theorem cleanup_played : ∃ w',
    (Scenario.oneByOne.purge 20 .sessions).eval CleanupWorld.answer Scenario.retained =
        (.ok 2, w') ∧
      Purged .sessions 20 1000 Scenario.retained w' 2 := by
  obtain ⟨totalDeleted, w', heval, hpurged⟩ :=
    (cleanup_deletes_expired Scenario.oneByOne).1 20 .sessions Scenario.retained
  obtain rfl : totalDeleted = 2 := hpurged.total.trans (by decide)
  exact ⟨w', heval, hpurged⟩

end Klynt
