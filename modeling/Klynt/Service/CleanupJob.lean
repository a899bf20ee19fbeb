import Klynt.Domain.Error
import Klynt.Domain.Tenant
import Klynt.Lib.Prog
import Klynt.Lib.SortRank

set_option relaxedAutoImplicit false
set_option autoImplicit false

/-!
# The cleanup job

Rows that are older than their table keeps them are deleted in batches, until a batch is not full or
a number of batches were deleted.

## Main definitions

* `RetainedTable`, `CleanupWorld` — the tables with the times of their rows.
* `CleanupReq`, `CleanupWorld.answer` — the statements, and what they do.
* `CleanupJob.purgeBatched`, `CleanupJob.runOnce` — the loop, and the job.

## Implementation notes

A statement takes its snapshot first: the rows that are to be deleted are chosen there, and those
that are still there are deleted.  Of a row, its id and the time that is compared matter.
-/

namespace Klynt

/-! ## Tables -/

/-- The tables that are cleaned up. -/
inductive RetainedTable where
  /-- `sessions`. -/
  | sessions
  /-- `email_verification_tokens`. -/
  | emailVerificationTokens
  /-- `audit_events`. -/
  | auditEvents
  deriving DecidableEq

/-- A row: `expires_at` or `created_at` is its time. -/
structure RetainedRow where
  /-- The id. -/
  id : Uuid
  /-- The time that is compared. -/
  time : Time
  deriving DecidableEq

/-- A line of the log. -/
inductive CleanupLine where
  /-- There may be more rows to delete. -/
  | iterationLimit (table : RetainedTable) (totalDeleted : ℕ)
  /-- The job is done. -/
  | completed (sessionsDeleted tokensDeleted auditDeleted : ℕ)

/-- The tables and the log. -/
structure CleanupWorld where
  /-- The rows. -/
  rows : RetainedTable → List RetainedRow
  /-- Ids are primary keys. -/
  ids_nodup : ∀ t, ((rows t).map (·.id)).Nodup
  /-- The log. -/
  log : List CleanupLine

namespace CleanupWorld

variable (w : CleanupWorld) (t : RetainedTable)

/-- Some rows are deleted, as far as they are there. -/
def without (victims : List RetainedRow) : CleanupWorld :=
  { w with
    rows := Function.update w.rows t ((w.rows t).filter (· ∉ victims))
    ids_nodup := by
      intro t'
      by_cases ht : t' = t
      · subst ht
        rw [Function.update_self]
        exact (w.ids_nodup t').sublist (List.filter_sublist.map _)
      · rw [Function.update_of_ne ht]
        exact w.ids_nodup t' }

/-- A row is inserted. -/
def insert (row : RetainedRow) (hid : row.id ∉ (w.rows t).map (·.id)) : CleanupWorld :=
  { w with
    rows := Function.update w.rows t (row :: w.rows t)
    ids_nodup := by
      intro t'
      by_cases ht : t' = t
      · subst ht
        rw [Function.update_self, List.map_cons]
        exact (w.ids_nodup t').cons hid
      · rw [Function.update_of_ne ht]
        exact w.ids_nodup t' }

/-- A line is logged. -/
def logged (line : CleanupLine) : CleanupWorld := { w with log := w.log ++ [line] }

end CleanupWorld

/-! ## Statements -/

/-- `SELECT id FROM t WHERE time < $1 ORDER BY id LIMIT $2`. -/
def chosenIds (rows : List RetainedRow) (cutoff : Time) (limit : ℕ) : List Uuid :=
  ((sortBy (·.id.toNat) (rows.filter (·.time < cutoff))).take limit).map (·.id)

/-- The rows that are to be deleted: `WHERE id IN (…)`. -/
def victims (rows : List RetainedRow) (cutoff : Time) (limit : ℕ) : List RetainedRow :=
  rows.filter (·.id ∈ chosenIds rows cutoff limit)

/-- What the job does. -/
inductive CleanupReq where
  /-- The snapshot of a statement is taken. -/
  | choose (table : RetainedTable) (cutoff : Time) (limit : ℕ)
  /-- The rows of the statement are deleted. -/
  | delete (table : RetainedTable) (rows : List RetainedRow)
  /-- A line is logged. -/
  | log (line : CleanupLine)

/-- What is answered. -/
abbrev CleanupAns : CleanupReq → Type
  | .choose _ _ _ => Except SqlxError (List RetainedRow)
  | .delete _ _ => Except SqlxError ℕ
  | .log _ => Unit

/-- What is done and answered, if nothing fails. -/
def CleanupWorld.answer : (req : CleanupReq) → CleanupWorld → CleanupAns req × CleanupWorld
  | .choose t cutoff limit, w => (.ok (Klynt.victims (w.rows t) cutoff limit), w)
  | .delete t rows, w => (.ok ((w.rows t).filter (· ∈ rows)).length, w.without t rows)
  | .log line, w => ((), w.logged line)

/-! ## The job -/

/-- The job. -/
structure CleanupJob where
  /-- For how many days expired tokens are kept. -/
  tokenRetentionDays : Int := 7
  /-- For how many days events are kept. -/
  auditRetentionDays : Int := 365
  /-- How many rows are deleted at once. -/
  batchSize : ℕ := 1000

namespace CleanupJob

/-- The actions of the job. -/
abbrev Action (α : Type) : Type := Prog CleanupReq CleanupAns SqlxError α

variable (job : CleanupJob) (now : Time)

/-- A statement that deletes a batch; the number of deleted rows is returned. -/
def runOneBatch (t : RetainedTable) (cutoff : Time) : Action ℕ := do
  let rows ← .ask (.choose t cutoff job.batchSize) .done
  .ask (.delete t rows) .done

/-- The loop of `purge_batched`, with the iterations that are left. -/
def purgeLoop (t : RetainedTable) (runOneBatch : Action ℕ) : ℕ → ℕ → Action ℕ
  | 0, totalDeleted => do
    .ask (.log (.iterationLimit t totalDeleted)) fun _ => .done (.ok ())
    return totalDeleted
  | iterations + 1, totalDeleted => do
    let deleted ← runOneBatch
    if deleted < job.batchSize then return totalDeleted + deleted
    purgeLoop t runOneBatch iterations (totalDeleted + deleted)

/-- `purge_batched`. -/
def purgeBatched (t : RetainedTable) (runOneBatch : Action ℕ) : Action ℕ :=
  job.purgeLoop t runOneBatch 1000 0

/-- The time before which the rows of a table are deleted. -/
def cutoff : RetainedTable → Time
  | .sessions => now
  | .emailVerificationTokens => now - days job.tokenRetentionDays
  | .auditEvents => now - days job.auditRetentionDays

/-- `purge_batched` for a table, as `run_once` calls it. -/
def purge (t : RetainedTable) : Action ℕ :=
  job.purgeBatched t (job.runOneBatch t (job.cutoff now t))

/-- `run_once`. -/
def runOnce : Action Unit := do
  let sessionsDeleted ← job.purge now .sessions
  let tokensDeleted ← job.purge now .emailVerificationTokens
  let auditDeleted ← job.purge now .auditEvents
  .ask (.log (.completed sessionsDeleted tokensDeleted auditDeleted)) fun _ => .done (.ok ())

end CleanupJob

end Klynt
