import Mathlib.Algebra.Ring.Nat
import Mathlib.Data.List.MinMax
import Mathlib.Data.String.Basic
import Parqonaut.Sql.Table

/-!
# Durable application jobs

The `application_jobs` table of the SQLite store and the statements on it, each atomic.
`recover_stale_scan_jobs` is one transaction; `request_cancel_job` reads and updates in two
statements, between which others may run. Timestamps are RFC 3339 texts, compared as texts.
-/

namespace Parqonaut.Store

open Sql

/-- Kind of work a job asks for. -/
inductive JobKind where
  | scan
  | repair
  | batchRepair
  | batchResume
  deriving DecidableEq

/-- Values of the `status` column. -/
inductive JobStatus where
  | queued
  | running
  | succeeded
  | failed
  | canceled
  deriving DecidableEq

namespace JobStatus

def asStr : JobStatus → String
  | queued => "queued"
  | running => "running"
  | succeeded => "succeeded"
  | failed => "failed"
  | canceled => "canceled"

/-- No statement moves a job out of these. -/
def isTerminal : JobStatus → Bool
  | succeeded | failed | canceled => true
  | queued | running => false

end JobStatus

/-- A row of `application_jobs`. -/
structure ScanJobRow where
  jobId : String
  submittedAt : String
  startedAt : Option String
  completedAt : Option String
  status : JobStatus
  targetKind : String
  normalizedTargetKey : String
  requestJson : String
  failureCode : Option String
  failureMessage : Option String
  runId : Option String
  workerId : Option String
  attemptCount : Nat
  heartbeatAt : Option String
  leasedUntil : Option String
  recoveryNote : Option String
  jobKind : JobKind
  payloadSchemaVersion : Nat
  cancelRequested : Bool
  resultRefJson : Option String
  deriving DecidableEq

/-- Job table; `job_id` is its primary key. -/
abbrev JobTable := Table ScanJobRow.jobId

/-- Failures of the job statements. -/
inductive StoreError where
  | sql
  | reportValidation (message : String)
  | jobNotFound (jobId : String)
  deriving DecidableEq

/-- When a stale job is given up. -/
structure JobRecoveryPolicy where
  maxAttempts : UInt32

namespace JobRecoveryPolicy

/-- `policy.max_attempts as i32`. -/
def maxAsI32 (policy : JobRecoveryPolicy) : Int := policy.maxAttempts.toBitVec.toInt

end JobRecoveryPolicy

/-- Result of stale-job recovery. -/
structure StaleRecoveryStats where
  requeued : Nat := 0
  failedRetriesExhausted : Nat := 0

/-- Outcome of a client cancel request against a durable job. -/
inductive JobCancelOutcome where
  | canceledFromQueued
  | cancelRequestedForRunning
  | alreadyCanceled
  deriving DecidableEq

/-- What a client asks for when it submits a job. -/
structure JobSubmission where
  jobId : String
  kind : JobKind
  targetKind : String
  normalizedKey : String
  requestJson : String
  deriving DecidableEq

namespace JobTable

variable (table : JobTable) (jobId : String) (now workerId completedAt : String)

/-- Guard of the statements that expect one job in one status. -/
def isJobIn (status : JobStatus) (row : ScanJobRow) : Bool :=
  row.jobId = jobId && row.status = status

/-- An update of one job in one status. It is an error if there is no such row. -/
def updateJobIn (status : JobStatus) (assignment : Assignment ScanJobRow.jobId) (message : String) :
    Except StoreError Unit × JobTable :=
  (if table.affected (isJobIn jobId status) = 0 then .error (.reportValidation message) else .ok (),
    table.update (isJobIn jobId status) assignment)

/-! ## Submission and leases -/

/-- Row of a new job. -/
def queuedRow (submission : JobSubmission) (now : String) : ScanJobRow where
  jobId := submission.jobId
  submittedAt := now
  startedAt := none
  completedAt := none
  status := .queued
  targetKind := submission.targetKind
  normalizedTargetKey := submission.normalizedKey
  requestJson := submission.requestJson
  failureCode := none
  failureMessage := none
  runId := none
  workerId := none
  attemptCount := 0
  heartbeatAt := none
  leasedUntil := none
  recoveryNote := none
  jobKind := submission.kind
  payloadSchemaVersion := 1
  cancelRequested := false
  resultRefJson := none

def insertApplicationJob (submission : JobSubmission) (now : String) :
    Except StoreError Unit × JobTable :=
  match table.insert (queuedRow submission now) with
  | some next => (.ok (), next)
  | none => (.error .sql, table)

/-- Queued job that was submitted first. -/
def oldestQueued : Option ScanJobRow :=
  (table.rows.filter fun row => row.status = .queued).argmin ScanJobRow.submittedAt

def claimed (startedAt heartbeatAt leasedUntil : String) : Assignment ScanJobRow.jobId where
  set row := { row with
    status := .running
    startedAt := some startedAt
    workerId := some workerId
    heartbeatAt := some heartbeatAt
    leasedUntil := some leasedUntil
    attemptCount := row.attemptCount + 1 }
  keepsKey _ := rfl

def claimNextQueuedScanJob (startedAt heartbeatAt leasedUntil : String) :
    Option ScanJobRow × JobTable :=
  match oldestQueued table with
  | none => (none, table)
  | some job =>
    let assignment := claimed workerId startedAt heartbeatAt leasedUntil
    (some (assignment.set job), table.update (fun row => row.jobId = job.jobId) assignment)

def renewed (heartbeatAt leasedUntil : String) : Assignment ScanJobRow.jobId where
  set row := { row with heartbeatAt := some heartbeatAt, leasedUntil := some leasedUntil }
  keepsKey _ := rfl

def renewScanJobLease (heartbeatAt leasedUntil : String) : Bool × JobTable :=
  let guard := fun row => isJobIn jobId .running row && row.workerId = some workerId
  (0 < table.affected guard, table.update guard (renewed heartbeatAt leasedUntil))

/-! ## Recovery of stale jobs -/

/-- A running job whose lease ran out. -/
def isStale (row : ScanJobRow) : Bool :=
  row.status = .running && row.leasedUntil.any (· < now)

def retriesExhausted : Assignment ScanJobRow.jobId where
  set row := { row with
    status := .failed
    completedAt := some now
    failureCode := some "job_retries_exhausted"
    failureMessage :=
      some "maximum job execution attempts reached after worker loss or lease expiry"
    workerId := none
    heartbeatAt := none
    leasedUntil := none
    recoveryNote := some "retries_exhausted" }
  keepsKey _ := rfl

def requeued : Assignment ScanJobRow.jobId where
  set row := { row with
    status := .queued
    startedAt := none
    workerId := none
    heartbeatAt := none
    leasedUntil := none
    recoveryNote :=
      some "requeued after lease expired without completion (worker lost or process died)" }
  keepsKey _ := rfl

/-- Body of the recovery loop for one selected job. -/
def recoverJob (policy : JobRecoveryPolicy) (recovered : StaleRecoveryStats × JobTable)
    (job : String × Nat) : StaleRecoveryStats × JobTable :=
  let (stats, table) := recovered
  let (jobId, attemptCount) := job
  if (attemptCount : Int) ≥ policy.maxAsI32 then
    ({ stats with failedRetriesExhausted := stats.failedRetriesExhausted + 1 },
      table.update (isJobIn jobId .running) (retriesExhausted now))
  else
    ({ stats with requeued := stats.requeued + 1 }, table.update (isJobIn jobId .running) requeued)

/-- Id and attempt count of every stale job. -/
def staleJobs : List (String × Nat) :=
  (table.rows.filter (isStale now)).map fun row => (row.jobId, row.attemptCount)

def recoverStaleScanJobs (policy : JobRecoveryPolicy) : StaleRecoveryStats × JobTable :=
  (staleJobs table now).foldl (recoverJob now policy) ({}, table)

/-! ## Completion and cancellation -/

def succeeded (runId resultRefJson : Option String) : Assignment ScanJobRow.jobId where
  set row := { row with
    status := .succeeded
    completedAt := some completedAt
    runId := runId
    resultRefJson := resultRefJson
    workerId := none
    heartbeatAt := none
    leasedUntil := none
    cancelRequested := false }
  keepsKey _ := rfl

def completeApplicationJobSuccess (runId resultRefJson : Option String) :
    Except StoreError Unit × JobTable :=
  updateJobIn table jobId .running (succeeded completedAt runId resultRefJson)
    "application job not running or missing when completing success"

def canceledByClient : Assignment ScanJobRow.jobId where
  set row := { row with
    status := .canceled
    completedAt := some completedAt
    failureCode := some "canceled"
    failureMessage := some "job canceled by client request"
    workerId := none
    heartbeatAt := none
    leasedUntil := none
    cancelRequested := false }
  keepsKey _ := rfl

def completeApplicationJobCanceled : Except StoreError Unit × JobTable :=
  updateJobIn table jobId .running (canceledByClient completedAt)
    "application job not running or missing when completing cancel"

def failed (failureCode failureMessage : String) : Assignment ScanJobRow.jobId where
  set row := { row with
    status := .failed
    completedAt := some completedAt
    failureCode := some failureCode
    failureMessage := some failureMessage
    workerId := none
    heartbeatAt := none
    leasedUntil := none }
  keepsKey _ := rfl

def completeScanJobFailure (failureCode failureMessage : String) :
    Except StoreError Unit × JobTable :=
  updateJobIn table jobId .running (failed completedAt failureCode failureMessage)
    "scan job not running or missing when completing failure"

def canceledBeforeStart : Assignment ScanJobRow.jobId where
  set row := { row with
    status := .canceled
    completedAt := some now
    failureCode := some "canceled"
    failureMessage := some "job canceled before start" }
  keepsKey _ := rfl

def cancelRequested : Assignment ScanJobRow.jobId where
  set row := { row with cancelRequested := true }
  keepsKey _ := rfl

/-- Rest of `request_cancel_job` after it has read the status of the job. -/
def cancelAfterRead (read : Option JobStatus) (now : String) :
    Except StoreError JobCancelOutcome × JobTable :=
  match read with
  | none => (.error (.jobNotFound jobId), table)
  | some .queued =>
    let (outcome, next) := updateJobIn table jobId .queued (canceledBeforeStart now)
      "job left queued before cancel could apply"
    (outcome.map fun _ => .canceledFromQueued, next)
  | some .running =>
    let (outcome, next) := updateJobIn table jobId .running cancelRequested
      "job left running before cancel could apply"
    (outcome.map fun _ => .cancelRequestedForRunning, next)
  | some .canceled => (.ok .alreadyCanceled, table)
  | some status =>
    (.error (.reportValidation
      ("job " ++ jobId ++ " is already terminal (" ++ status.asStr ++ ")")), table)

def getScanJob : Except StoreError ScanJobRow :=
  match table.find jobId with
  | some row => .ok row
  | none => .error (.jobNotFound jobId)

/-- `request_cancel_job` when no statement runs between its read and its update. -/
def requestCancelJob : Except StoreError JobCancelOutcome × JobTable :=
  cancelAfterRead table jobId ((getScanJob table jobId).toOption.map (·.status)) now

end JobTable

/-! ## Sequences of statements -/

/-- A statement with its values. A cancel request carries the status it has read, which the job
may have left since. -/
inductive JobStatement where
  | insert (submission : JobSubmission) (now : String)
  | claim (workerId startedAt heartbeatAt leasedUntil : String)
  | renew (jobId workerId heartbeatAt leasedUntil : String)
  | recoverStale (now : String)
  | requestCancel (jobId : String) (read : Option JobStatus) (now : String)
  | completeSuccess (jobId completedAt : String) (runId resultRefJson : Option String)
  | completeFailure (jobId completedAt failureCode failureMessage : String)
  | completeCanceled (jobId completedAt : String)

namespace JobStatement

open JobTable

/-- Table after a statement. -/
def execute (policy : JobRecoveryPolicy) (table : JobTable) : JobStatement → JobTable
  | insert submission now => (insertApplicationJob table submission now).2
  | claim workerId startedAt heartbeatAt leasedUntil =>
    (claimNextQueuedScanJob table workerId startedAt heartbeatAt leasedUntil).2
  | renew jobId workerId heartbeatAt leasedUntil =>
    (renewScanJobLease table jobId workerId heartbeatAt leasedUntil).2
  | recoverStale now => (recoverStaleScanJobs table now policy).2
  | requestCancel jobId read now => (cancelAfterRead table jobId read now).2
  | completeSuccess jobId completedAt runId resultRefJson =>
    (completeApplicationJobSuccess table jobId completedAt runId resultRefJson).2
  | completeFailure jobId completedAt failureCode failureMessage =>
    (completeScanJobFailure table jobId completedAt failureCode failureMessage).2
  | completeCanceled jobId completedAt =>
    (completeApplicationJobCanceled table jobId completedAt).2

/-- Table after a sequence of statements. -/
def executeAll (policy : JobRecoveryPolicy) (statements : List JobStatement) (table : JobTable) :
    JobTable :=
  statements.foldl (execute policy) table

end JobStatement

/-!
# What a job row can become

`RowMoves` lists every change a statement can make to a row, with its guard, so the invariants of a
row are checked once for each move.
-/

open JobTable Table JobStatement

/-! ## Moves -/

/-- What one statement can do to one row. -/
inductive RowMoves (policy : JobRecoveryPolicy) :
    JobStatement → ScanJobRow → ScanJobRow → Prop where
  | claim {row workerId startedAt heartbeatAt leasedUntil} (queued : row.status = .queued) :
      RowMoves policy (.claim workerId startedAt heartbeatAt leasedUntil) row
        ((claimed workerId startedAt heartbeatAt leasedUntil).set row)
  | renew {row jobId workerId heartbeatAt leasedUntil} (running : row.status = .running)
      (owner : row.workerId = some workerId) :
      RowMoves policy (.renew jobId workerId heartbeatAt leasedUntil) row
        ((renewed heartbeatAt leasedUntil).set row)
  | giveUp {row now} (stale : isStale now row = true)
      (exhausted : policy.maxAsI32 ≤ row.attemptCount) :
      RowMoves policy (.recoverStale now) row ((retriesExhausted now).set row)
  | requeue {row now} (stale : isStale now row = true)
      (retries : (row.attemptCount : Int) < policy.maxAsI32) :
      RowMoves policy (.recoverStale now) row (requeued.set row)
  | cancelQueued {row jobId read now} (queued : row.status = .queued) :
      RowMoves policy (.requestCancel jobId read now) row ((canceledBeforeStart now).set row)
  | cancelRunning {row jobId read now} (running : row.status = .running) :
      RowMoves policy (.requestCancel jobId read now) row (cancelRequested.set row)
  | success {row jobId completedAt runId resultRefJson} (running : row.status = .running) :
      RowMoves policy (.completeSuccess jobId completedAt runId resultRefJson) row
        ((succeeded completedAt runId resultRefJson).set row)
  | failure {row jobId completedAt failureCode failureMessage} (running : row.status = .running) :
      RowMoves policy (.completeFailure jobId completedAt failureCode failureMessage) row
        ((failed completedAt failureCode failureMessage).set row)
  | canceled {row jobId completedAt} (running : row.status = .running) :
      RowMoves policy (.completeCanceled jobId completedAt) row
        ((canceledByClient completedAt).set row)

/-- The updates and inserts one statement can make. -/
inductive TableMoves (policy : JobRecoveryPolicy) (statement : JobStatement) :
    JobTable → JobTable → Prop where
  | stays {table} : TableMoves policy statement table table
  | inserts {table next submission now}
      (inserts : table.insert (queuedRow submission now) = some next) :
      TableMoves policy statement table next
  | updates {table guard assignment} (moves : ∀ row ∈ table.rows, guard row = true →
        RowMoves policy statement row (assignment.set row)) :
      TableMoves policy statement table (table.update guard assignment)
  | andThen {table middle next} (first : TableMoves policy statement table middle)
      (second : TableMoves policy statement middle next) : TableMoves policy statement table next

section

variable {policy : JobRecoveryPolicy} {table next : JobTable} {row later : ScanJobRow}
  {statement : JobStatement}

lemma TableMoves.all {property : ScanJobRow → Prop} (moves : TableMoves policy statement table next)
    (fresh : ∀ submission now, property (queuedRow submission now))
    (closed : ∀ row later, property row → RowMoves policy statement row later → property later)
    (holds : table.All property) : next.All property := by
  induction moves with
  | stays => exact holds
  | inserts inserts => exact holds.insert inserts (fresh _ _)
  | updates moves =>
    apply holds.update
    intro row mem held selected
    exact closed _ _ held (moves row mem selected)
  | andThen _ _ first second => exact second (first holds)

lemma TableMoves.tracks {relation : ScanJobRow → ScanJobRow → Prop}
    (moves : TableMoves policy statement table next) (reflexive : ∀ row, relation row row)
    (transitive : ∀ {first second third}, relation first second → relation second third →
      relation first third)
    (covers : ∀ row later, RowMoves policy statement row later → relation row later) :
    Tracks relation table next := by
  induction moves with
  | stays => exact Tracks.refl reflexive
  | inserts inserts => exact Tracks.insert reflexive inserts
  | updates moves =>
    apply Tracks.update reflexive
    intro row mem selected
    exact covers _ _ (moves row mem selected)
  | andThen _ _ first second => exact Tracks.trans transitive first second

variable {jobId : String} {status : JobStatus}

lemma isJobIn_eq_true :
    isJobIn jobId status row = true ↔ row.jobId = jobId ∧ row.status = status := by
  simp [isJobIn]

lemma updateJobIn_moves {assignment : Assignment ScanJobRow.jobId}
    (moves : ∀ row, row.status = status → RowMoves policy statement row (assignment.set row)) :
    TableMoves policy statement table (table.update (isJobIn jobId status) assignment) := by
  apply TableMoves.updates
  intro row _ selected
  exact moves row (isJobIn_eq_true.mp selected).2

lemma oldestQueued_eq_some (oldest : oldestQueued table = some row) :
    row ∈ table.rows ∧ row.status = .queued := by
  have mem := List.argmin_mem oldest
  rw [List.mem_filter, decide_eq_true_eq] at mem
  exact mem

variable {now : String}

lemma isStale_running (stale : isStale now row = true) : row.status = .running :=
  of_decide_eq_true (Bool.and_eq_true_iff.mp stale).1

/-- Each selected job is still stale when the loop comes to it: the loop takes jobs out of
`running` and changes no attempt count. -/
lemma recoverJobs_moves {jobs : List (String × Nat)} {stats : StaleRecoveryStats}
    (selected : ∀ job ∈ jobs, ∀ row ∈ table.rows, row.jobId = job.1 → row.status = .running →
      isStale now row = true ∧ row.attemptCount = job.2) :
    TableMoves policy (.recoverStale now) table
      (jobs.foldl (recoverJob now policy) (stats, table)).2 := by
  induction jobs generalizing table stats with
  | nil => exact .stays
  | cons job rest ih =>
    have stillSelected : ∀ assignment : Assignment ScanJobRow.jobId,
        (∀ row, (assignment.set row).status ≠ .running) →
        ∀ job' ∈ rest, ∀ row ∈ (table.update (isJobIn job.1 .running) assignment).rows,
          row.jobId = job'.1 → row.status = .running →
            isStale now row = true ∧ row.attemptCount = job'.2 := by
      intro _ leaves job' mem row present sameId running
      obtain ⟨old, wasPresent, rfl⟩ := mem_update.mp present
      split at running
      · exact absurd running (leaves old)
      · rename_i unselected
        rw [if_neg unselected] at sameId ⊢
        exact selected job' (List.mem_cons_of_mem _ mem) old wasPresent sameId running
    have here : ∀ row ∈ table.rows, isJobIn job.1 .running row = true →
        isStale now row = true ∧ row.attemptCount = job.2 := by
      intro row mem isJob
      obtain ⟨sameId, running⟩ := isJobIn_eq_true.mp isJob
      exact selected job List.mem_cons_self row mem sameId running
    rw [List.foldl_cons, recoverJob]
    split
    · rename_i exhausted
      refine .andThen (.updates ?_) (ih (stillSelected _ fun _ => nofun))
      intro row mem isJob
      obtain ⟨stale, attempts⟩ := here row mem isJob
      exact .giveUp stale (attempts ▸ exhausted)
    · rename_i retries
      refine .andThen (.updates ?_) (ih (stillSelected _ fun _ => nofun))
      intro row mem isJob
      obtain ⟨stale, attempts⟩ := here row mem isJob
      exact .requeue stale (attempts ▸ not_le.mp retries)

lemma recoverStaleScanJobs_moves :
    TableMoves policy (.recoverStale now) table (recoverStaleScanJobs table now policy).2 := by
  apply recoverJobs_moves
  intro _ mem row present sameId _
  obtain ⟨stale, isSelected, rfl⟩ := List.mem_map.mp mem
  obtain ⟨stalePresent, isStaleRow⟩ := List.mem_filter.mp isSelected
  obtain rfl : row = stale := eq_of_key present stalePresent sameId
  exact ⟨isStaleRow, rfl⟩

/-- Every statement moves the table. -/
lemma execute_moves : TableMoves policy statement table (statement.execute policy table) := by
  cases statement with
  | insert submission now =>
    simp only [execute, insertApplicationJob]
    cases inserted : table.insert (queuedRow submission now) with
    | none => exact .stays
    | some => exact .inserts inserted
  | claim =>
    simp only [execute, claimNextQueuedScanJob]
    cases oldest : oldestQueued table with
    | none => exact .stays
    | some job =>
      obtain ⟨present, queued⟩ := oldestQueued_eq_some oldest
      apply TableMoves.updates
      intro row mem selected
      have same : row = job := eq_of_key mem present (of_decide_eq_true selected)
      exact .claim (same ▸ queued)
  | renew =>
    apply TableMoves.updates
    intro _ _ selected
    obtain ⟨isJob, owner⟩ := Bool.and_eq_true_iff.mp selected
    exact .renew (isJobIn_eq_true.mp isJob).2 (of_decide_eq_true owner)
  | recoverStale => exact recoverStaleScanJobs_moves
  | requestCancel _ read =>
    cases read with
    | none => exact .stays
    | some status =>
      cases status with
      | queued => exact updateJobIn_moves fun _ => .cancelQueued
      | running => exact updateJobIn_moves fun _ => .cancelRunning
      | succeeded | failed | canceled => exact .stays
  | completeSuccess =>
    exact updateJobIn_moves fun _ => .success
  | completeFailure =>
    exact updateJobIn_moves fun _ => .failure
  | completeCanceled => exact updateJobIn_moves fun _ => .canceled

/-! ## Well-formed rows -/

/-- Only a running job has an owner and a lease, a finished one has a completion time, and a job is
claimed only while it has attempts left. -/
structure WellFormed (policy : JobRecoveryPolicy) (row : ScanJobRow) : Prop where
  leased : row.status = .running → row.workerId.isSome = true ∧ row.leasedUntil.isSome = true
  unleased : row.status ≠ .running → row.workerId = none ∧ row.leasedUntil = none
  completed : row.status.isTerminal = true → row.completedAt.isSome = true
  attempts : row.attemptCount ≤ max 1 policy.maxAttempts.toNat
  retries : row.status = .queued → row.attemptCount < max 1 policy.maxAttempts.toNat

lemma WellFormed.queuedRow (submission : JobSubmission) (now : String) :
    WellFormed policy (queuedRow submission now) where
  leased := nofun
  unleased _ := ⟨rfl, rfl⟩
  completed := nofun
  attempts := Nat.zero_le _
  retries _ := Nat.lt_of_lt_of_le Nat.zero_lt_one (le_max_left _ _)

lemma maxAsI32_eq (bounded : policy.maxAttempts.toNat < 2 ^ 31) :
    policy.maxAsI32 = policy.maxAttempts.toNat := by
  rw [JobRecoveryPolicy.maxAsI32, BitVec.toInt_eq_toNat_of_lt]
  · rfl
  · change 2 * policy.maxAttempts.toNat < 2 ^ 32
    omega

lemma WellFormed.moves (bounded : policy.maxAttempts.toNat < 2 ^ 31)
    (formed : WellFormed policy row) (moves : RowMoves policy statement row later) :
    WellFormed policy later := by
  cases moves with
  | claim queued =>
    refine ⟨fun _ => ⟨rfl, rfl⟩, fun other => absurd rfl other, nofun, ?_, nofun⟩
    exact formed.retries queued
  | renew running =>
    refine ⟨fun _ => ⟨?_, rfl⟩, fun other => absurd running other, ?_, formed.attempts,
      formed.retries⟩
    · exact (formed.leased running).1
    · exact formed.completed
  | giveUp | success | failure | canceled =>
    exact ⟨nofun, fun _ => ⟨rfl, rfl⟩, fun _ => rfl, formed.attempts, nofun⟩
  | requeue _ retries =>
    refine ⟨nofun, fun _ => ⟨rfl, rfl⟩, nofun, formed.attempts, fun _ => ?_⟩
    rw [maxAsI32_eq bounded] at retries
    change row.attemptCount < _
    omega
  | cancelQueued queued =>
    have idle : row.status ≠ .running := by rw [queued]; exact nofun
    exact ⟨nofun, fun _ => formed.unleased idle, fun _ => rfl, formed.attempts, nofun⟩
  | cancelRunning =>
    exact ⟨formed.leased, formed.unleased, formed.completed, formed.attempts, formed.retries⟩

lemma executeAll_wellFormed (bounded : policy.maxAttempts.toNat < 2 ^ 31)
    (statements : List JobStatement) (formed : table.All (WellFormed policy)) :
    (executeAll policy statements table).All (WellFormed policy) := by
  induction statements generalizing table with
  | nil => exact formed
  | cons _ _ ih =>
    apply ih
    exact execute_moves.all WellFormed.queuedRow (fun _ _ held moves => held.moves bounded moves)
      formed

/-! ## History of a row -/

/-- Attempts are only counted up, and a terminal row is final. -/
structure Evolves (row later : ScanJobRow) : Prop where
  attempts : row.attemptCount ≤ later.attemptCount
  final : row.status.isTerminal = true → later = row

lemma Evolves.refl (row : ScanJobRow) : Evolves row row := ⟨le_rfl, fun _ => rfl⟩

lemma Evolves.trans {last : ScanJobRow} (first : Evolves row later) (second : Evolves later last) :
    Evolves row last := by
  refine ⟨first.attempts.trans second.attempts, fun terminal => ?_⟩
  have same : later = row := first.final terminal
  exact (second.final (same ▸ terminal)).trans same

lemma RowMoves.not_terminal (moves : RowMoves policy statement row later) :
    row.status.isTerminal = false := by
  cases moves with
  | claim queued | cancelQueued queued => rw [queued]; rfl
  | giveUp stale _ | requeue stale _ => rw [isStale_running stale]; rfl
  | renew running _ | cancelRunning running | success running | failure running
  | canceled running => rw [running]; rfl

lemma RowMoves.evolves (moves : RowMoves policy statement row later) : Evolves row later := by
  refine ⟨?_, fun terminal => absurd (moves.not_terminal.symm.trans terminal) nofun⟩
  cases moves with
  | claim => exact Nat.le_succ _
  | _ => exact le_rfl

lemma executeAll_tracks (statements : List JobStatement) :
    Tracks Evolves table (executeAll policy statements table) := by
  induction statements generalizing table with
  | nil => exact Tracks.refl Evolves.refl
  | cons _ _ ih =>
    refine Tracks.trans Evolves.trans ?_ ih
    exact execute_moves.tracks Evolves.refl Evolves.trans fun _ _ => RowMoves.evolves

/-! ## Every sequence of statements -/

/-- The rows of every table that any sequence of statements leads to. -/
theorem job_rows_well_formed (policy : JobRecoveryPolicy)
    (bounded : policy.maxAttempts.toNat ≤ 2 ^ 31 - 1) (earlier rest : List JobStatement)
    (row : ScanJobRow) (reached : row ∈ (executeAll policy earlier empty).rows) :
    (row.status = .running ↔ row.workerId.isSome = true ∧ row.leasedUntil.isSome = true) ∧
      (row.status.isTerminal = true →
        row.completedAt.isSome = true ∧ row.workerId = none ∧ row.leasedUntil = none) ∧
      row.attemptCount ≤ max 1 policy.maxAttempts.toNat ∧
      ∃ later ∈ (executeAll policy (earlier ++ rest) empty).rows,
        later.jobId = row.jobId ∧ row.attemptCount ≤ later.attemptCount ∧
          (row.status.isTerminal = true → later = row) := by
  have formed : WellFormed policy row :=
    executeAll_wellFormed (by omega) earlier all_empty row reached
  obtain ⟨later, present, sameId, evolves⟩ := executeAll_tracks rest row reached
  refine ⟨⟨formed.leased, fun leased => ?_⟩, fun terminal => ?_, formed.attempts, later, ?_, sameId,
    evolves.attempts, evolves.final⟩
  · by_contra idle
    rw [(formed.unleased idle).1] at leased
    exact absurd leased.1 nofun
  · have idle : row.status ≠ .running := by
      intro running
      rw [running] at terminal
      exact absurd terminal nofun
    exact ⟨formed.completed terminal, formed.unleased idle⟩
  · rw [executeAll, List.foldl_append]
    exact present

end

namespace Reference

def policy : JobRecoveryPolicy := ⟨3⟩

def submission : JobSubmission := ⟨"job", .scan, "local_directory", "/data", "scan"⟩

/-- First attempt at a job. -/
def firstAttempt : List JobStatement :=
  [.insert submission "00:00", .claim "worker-1" "00:01" "00:01" "00:31"]

/-- Attempt as it stands in the table. -/
def attempted : ScanJobRow :=
  (claimed "worker-1" "00:01" "00:01" "00:31").set (queuedRow submission "00:00")

theorem job_rows_well_formed_attempted : attempted ∈ (executeAll policy firstAttempt empty).rows ∧
      attempted.attemptCount ≤ 3 ∧
      ∃ later ∈ (executeAll policy
          (firstAttempt ++ [.recoverStale "00:32", .claim "worker-2" "00:33" "00:33" "01:03"])
          empty).rows,
        later.jobId = "job" ∧ attempted.attemptCount ≤ later.attemptCount := by
  have reached : attempted ∈ (executeAll policy firstAttempt empty).rows := by
    decide +kernel
  obtain ⟨-, -, attempts, later, present, sameId, grows, -⟩ :=
    job_rows_well_formed policy (by decide) firstAttempt
      [.recoverStale "00:32", .claim "worker-2" "00:33" "00:33" "01:03"] attempted reached
  exact ⟨reached, attempts, later, present, sameId, grows⟩

end Reference

/-!
## Stored timestamps

`to_rfc3339` of `chrono`, which the stores write to `leased_until` and `submitted_at` and compare
as texts.
-/

open List

/-- A number in decimal, in a field of fixed width. -/
def digits : Nat → Nat → List Char
  | 0, _ => []
  | width + 1, n => Char.ofNat (48 + n / 10 ^ width % 10) :: digits width n

/-- A UTC instant without leap second. -/
structure Instant where
  year : Fin 10000
  month : Fin 13
  day : Fin 32
  hour : Fin 24
  minute : Fin 60
  second : Fin 60
  nanos : Fin 1000000000

namespace Instant

/-- Units from the largest to the smallest: their order is the order in time. -/
def units (time : Instant) : List Nat :=
  [time.year, time.month, time.day, time.hour, time.minute, time.second, time.nanos]

/-- Fewest of 0, 3, 6 or 9 digits that are exact. -/
def fraction (nanos : Nat) : List Char :=
  if nanos = 0 then []
  else if nanos % 1000000 = 0 then '.' :: digits 3 (nanos / 1000000)
  else if nanos % 1000 = 0 then '.' :: digits 6 (nanos / 1000)
  else '.' :: digits 9 nanos

def toRfc3339 (time : Instant) : List Char :=
  digits 4 time.year ++ '-' :: (digits 2 time.month ++ '-' :: (digits 2 time.day ++
    'T' :: (digits 2 time.hour ++ ':' :: (digits 2 time.minute ++ ':' :: (digits 2 time.second ++
      (fraction time.nanos ++ ['+', '0', '0', ':', '0', '0']))))))

variable {width m n : Nat} {before after : List Char}

lemma digit_lt : ∀ d < 10, ∀ e < 10, (Char.ofNat (48 + d) < Char.ofNat (48 + e) ↔ d < e) ∧
    (Char.ofNat (48 + d) = Char.ofNat (48 + e) ↔ d = e) ∧ '+' < Char.ofNat (48 + d) := by
  decide

/-- Texts that start with fields of one width are ordered by the numbers first. -/
lemma digits_append_lt : digits width m ++ before < digits width n ++ after ↔
    m % 10 ^ width < n % 10 ^ width ∨ m % 10 ^ width = n % 10 ^ width ∧ before < after := by
  induction width with
  | zero => simp [digits, Nat.mod_one]
  | succ width ih =>
    obtain ⟨less, same, -⟩ := digit_lt _ (Nat.mod_lt (m / 10 ^ width) (by decide))
      _ (Nat.mod_lt (n / 10 ^ width) (by decide))
    have pos : 0 < 10 ^ width := Nat.pow_pos (by decide)
    have left := Nat.mod_lt m pos
    have right := Nat.mod_lt n pos
    rw [digits, digits, cons_append, cons_append, cons_lt_cons_iff, less, same, ih,
      Nat.mod_pow_succ, Nat.mod_pow_succ]
    generalize m / 10 ^ width % 10 = a
    generalize n / 10 ^ width % 10 = b
    -- a difference in the first digit outweighs the other digits
    rcases Nat.lt_trichotomy a b with lower | rfl | higher
    · have := Nat.mul_le_mul_left (10 ^ width) lower
      grind
    · simp
    · have := Nat.mul_le_mul_left (10 ^ width) higher
      grind

lemma digits_add (short : Nat) :
    digits (short + width) n = digits short (n / 10 ^ width) ++ digits width n := by
  induction short with
  | zero => simp [digits]
  | succ short ih =>
    rw [Nat.succ_add, digits, digits, ih, Nat.div_div_eq_div_mul, ← Nat.pow_add,
      Nat.add_comm width, cons_append]

/-- The suffix is less than the dot and every digit: the fraction that ends first is less. -/
lemma fraction_lt {zone : List Char} (hm : m < 1000000000) (hn : n < 1000000000) :
    fraction m ++ '+' :: zone < fraction n ++ '+' :: zone ↔ m < n := by
  have six (k : Nat) : digits 6 k = digits 3 (k / 1000) ++ digits 3 k := @digits_add 3 k 3
  have nine (k : Nat) : digits 9 k = digits 3 (k / 1000000) ++ digits 6 k := @digits_add 6 k 3
  have plus (k : Nat) (text : List Char) : '+' :: zone < digits 3 k ++ text :=
    .rel (digit_lt _ (Nat.mod_lt _ (by decide)) 0 (by decide)).2.2
  have digit (k : Nat) (text : List Char) : ¬ digits 3 k ++ text < '+' :: zone :=
    List.lt_asymm (plus ..)
  unfold fraction
  split_ifs
  all_goals
    simp [cons_lt_cons_iff, six, nine, plus, digit, digits_append_lt, List.lt_irrefl]
    omega

lemma digits_lt {first second : Fin m} (fits : m ≤ 10 ^ width) :
    digits width first ++ before < digits width second ++ after ↔
      first.val < second.val ∨ first.val = second.val ∧ before < after := by
  rw [digits_append_lt, Nat.mod_eq_of_lt (first.isLt.trans_le fits),
    Nat.mod_eq_of_lt (second.isLt.trans_le fits)]

lemma toRfc3339_lt {first second : Instant} :
    first.toRfc3339 < second.toRfc3339 ↔ first.units < second.units := by
  simp [toRfc3339, units, digits_lt, cons_lt_cons_iff, fraction_lt]

/-- Texts are in the order of the instants, and equal for equal instants only. -/
theorem toRfc3339_order (first second : Instant) :
    (first.toRfc3339 < second.toRfc3339 ↔ first.units < second.units) ∧
      (first.toRfc3339 = second.toRfc3339 ↔ first = second) := by
  refine ⟨toRfc3339_lt, fun same => ?_, congrArg _⟩
  have less := @toRfc3339_lt first second
  have more := @toRfc3339_lt second first
  rw [same] at less more
  have units := Std.Trichotomous.trichotomous _ _ (mt less.mpr (List.lt_irrefl _))
    (mt more.mpr (List.lt_irrefl _))
  cases first
  cases second
  simpa [Instant.units, Fin.val_inj] using units

end Instant

end Parqonaut.Store
