import Parqonaut.Effects.Interleaving
import Parqonaut.Store.Jobs

/-!
# Lease fencing of durable jobs

Workers claim jobs, renew their leases, complete them or stop at any point, and clients act in
between. The complete statements select the row by job id and status, not by worker. They are
fenced in every run in which no recovery requeues a job that a worker is still working on.
-/

namespace Parqonaut.Store

open Effects Sql JobTable

/-! ## Workers -/

/-- Where a worker stands in its loop. -/
inductive WorkerPhase where
  | idle
  | working (jobId : String)
  | stopped

/-- A worker and the id it writes into the rows it claims. -/
structure Worker where
  workerId : String
  phase : WorkerPhase

/-- How a worker ends a job. -/
inductive Completion where
  | success (completedAt : String) (runId resultRefJson : Option String)
  | failure (completedAt failureCode failureMessage : String)
  | canceled (completedAt : String)

/-- Complete statement for a job. -/
def Completion.statement (jobId : String) : Completion → JobStatement
  | success completedAt runId resultRefJson =>
    .completeSuccess jobId completedAt runId resultRefJson
  | failure completedAt failureCode failureMessage =>
    .completeFailure jobId completedAt failureCode failureMessage
  | canceled completedAt => .completeCanceled jobId completedAt

/-- What a process does next. A client submits and cancels jobs; `leave` ends a round of the
worker loop, however it went. -/
inductive WorkerEvent where
  | submit (submission : JobSubmission) (now : String)
  | requestCancel (jobId : String) (read : Option JobStatus) (now : String)
  | recover (now : String)
  | claim (startedAt heartbeatAt leasedUntil : String)
  | renew (heartbeatAt leasedUntil : String)
  | complete (completion : Completion)
  | leave
  | crash

/-- Phase of a worker after `claim_next_queued_scan_job`. -/
def phaseOfClaim : Option ScanJobRow → WorkerPhase
  | some row => .working row.jobId
  | none => .idle

/-- Workers and clients of one store. -/
def workerMachine (policy : JobRecoveryPolicy) : Machine WorkerEvent Worker JobTable where
  step
    | .submit submission now, worker, table =>
      some (worker, (JobStatement.insert submission now).execute policy table)
    | .requestCancel jobId read now, worker, table =>
      some (worker, (JobStatement.requestCancel jobId read now).execute policy table)
    | .recover now, ⟨workerId, .idle⟩, table =>
      some (⟨workerId, .idle⟩, (JobStatement.recoverStale now).execute policy table)
    | .claim startedAt heartbeatAt leasedUntil, ⟨workerId, .idle⟩, table =>
      let (row, next) :=
        claimNextQueuedScanJob table workerId startedAt heartbeatAt leasedUntil
      some (⟨workerId, phaseOfClaim row⟩, next)
    | .renew heartbeatAt leasedUntil, ⟨workerId, .working jobId⟩, table =>
      some (⟨workerId, .working jobId⟩,
        (JobStatement.renew jobId workerId heartbeatAt leasedUntil).execute policy table)
    | .complete completion, ⟨workerId, .working jobId⟩, table =>
      some (⟨workerId, .working jobId⟩, (completion.statement jobId).execute policy table)
    | .leave, ⟨workerId, .working _⟩, table => some (⟨workerId, .idle⟩, table)
    | .crash, ⟨workerId, _⟩, table => some (⟨workerId, .stopped⟩, table)
    | _, _, _ => none

section

variable {Proc : Type} [DecidableEq Proc]

/-- Processes at the start, over a table without jobs. -/
def idleWorkers (workerIds : Proc → String) : System Proc Worker JobTable where
  locals := fun process => ⟨workerIds process, .idle⟩
  shared := Table.empty

/-- Whenever a complete statement takes a job out of `running`, the worker that issues
it is the one the row names. -/
def Fenced (policy : JobRecoveryPolicy) (system : System Proc Worker JobTable) : Prop :=
  ∀ process completion next,
    (workerMachine policy).act process (.complete completion) system = some next →
    ∀ row ∈ system.shared.rows, row.status = .running →
    ∀ later ∈ next.shared.rows, later.jobId = row.jobId → later.status ≠ .running →
      row.workerId = some (system.locals process).workerId

/-- A recovery requeues no job that some worker is still working on. -/
def RequeuesAbandoned (policy : JobRecoveryPolicy) (_ : Proc) (event : WorkerEvent)
    (system : System Proc Worker JobTable) : Prop :=
  ∀ now, event = .recover now → ∀ worker jobId, (system.locals worker).phase = .working jobId →
    ∀ row ∈ system.shared.rows, row.jobId = jobId → isStale now row = true →
      policy.maxAsI32 ≤ row.attemptCount

variable {policy : JobRecoveryPolicy} {table next : JobTable} {row later : ScanJobRow}
  {statement : JobStatement} {workerId : String}

/-! ## Job of a working worker -/

/-- The row still belongs to the worker, or its job is over. -/
def Attends (workerId : String) (row : ScanJobRow) : Prop :=
  (row.status = .running ∧ row.workerId = some workerId) ∨ row.status.isTerminal = true

/-- The statement does not requeue the row. -/
def Spares (policy : JobRecoveryPolicy) (statement : JobStatement) (row : ScanJobRow) : Prop :=
  ∀ now, statement = .recoverStale now → isStale now row = true → policy.maxAsI32 ≤ row.attemptCount

lemma Attends.not_queued (attends : Attends workerId row) : row.status ≠ .queued := by
  intro queued
  rcases attends with ⟨running, -⟩ | terminal
  · exact absurd (running.symm.trans queued) nofun
  · rw [queued] at terminal
    exact absurd terminal nofun

lemma Attends.moves (attends : Attends workerId row) (spares : Spares policy statement row)
    (moves : RowMoves policy statement row later) :
    Attends workerId later ∧ Spares policy statement later := by
  cases moves with
  | claim queued | cancelQueued queued => exact absurd queued attends.not_queued
  | requeue stale retries => exact absurd (spares _ rfl stale) (not_le.mpr retries)
  | giveUp stale exhausted => exact ⟨.inr rfl, fun _ _ _ => exhausted⟩
  | renew | cancelRunning => exact ⟨attends, nofun⟩
  | success | failure | canceled => exact ⟨.inr rfl, nofun⟩

/-- The worker has a row to attend to under the id of its job. -/
def HasRow (table : JobTable) (worker : Worker) : Prop :=
  ∀ jobId, worker.phase = .working jobId →
    ∃ row ∈ table.rows, row.jobId = jobId ∧ Attends worker.workerId row

variable {worker : Worker}

lemma HasRow.execute (hasRow : HasRow table worker)
    (spares : ∀ jobId, worker.phase = .working jobId →
      ∀ row ∈ table.rows, row.jobId = jobId → Spares policy statement row) :
    HasRow (statement.execute policy table) worker := by
  intro jobId working
  obtain ⟨row, present, isJob, attends⟩ := hasRow jobId working
  have tracks : Table.Tracks
      (fun row later => Attends worker.workerId row ∧ Spares policy statement row →
        Attends worker.workerId later ∧ Spares policy statement later)
      table (statement.execute policy table) := by
    apply execute_moves.tracks
    · exact fun _ => id
    · exact fun first second held => second (first held)
    · exact fun _ _ moves held => held.1.moves held.2 moves
  obtain ⟨later, laterPresent, sameId, attendsLater⟩ := tracks row present
  exact ⟨later, laterPresent, sameId.trans isJob,
    (attendsLater ⟨attends, spares jobId working row present isJob⟩).1⟩

/-- A claim gives the worker a row that names it. -/
lemma HasRow.claim {startedAt heartbeatAt leasedUntil : String} :
    let claim := claimNextQueuedScanJob table workerId startedAt heartbeatAt leasedUntil
    HasRow claim.2 ⟨workerId, phaseOfClaim claim.1⟩ := by
  intro claim jobId working
  cases oldest : oldestQueued table with
  | none =>
    have idle : claim.1 = none := by
      simp only [claim, claimNextQueuedScanJob, oldest]
    rw [idle] at working
    cases working
  | some job =>
    obtain ⟨present, -⟩ := oldestQueued_eq_some oldest
    have isClaimed : claim = (some ((claimed workerId startedAt heartbeatAt leasedUntil).set job),
        table.update (fun row => row.jobId = job.jobId)
          (claimed workerId startedAt heartbeatAt leasedUntil)) := by
      simp only [claim, claimNextQueuedScanJob, oldest]
    rw [isClaimed] at working ⊢
    refine ⟨_, Table.mem_update.mpr ⟨job, present, if_pos (decide_eq_true rfl)⟩, ?_,
      .inl ⟨rfl, rfl⟩⟩
    exact WorkerPhase.working.inj working

/-! ## Steps of the workers -/

/-- A process keeps its id, and works on no job it did not work on before. -/
def KeepsJob (worker moved : Worker) : Prop :=
  moved.workerId = worker.workerId ∧
    ∀ jobId, moved.phase = .working jobId → worker.phase = .working jobId

lemma KeepsJob.refl (worker : Worker) : KeepsJob worker worker := ⟨rfl, fun _ => id⟩

variable {event : WorkerEvent}

/-- Only a claim gives a worker a job; every other event runs at most one statement. -/
lemma workerMachine_step {moved : Worker × JobTable}
    (steps : (workerMachine policy).step event worker table = some moved) :
    (∃ startedAt heartbeatAt leasedUntil,
      let claim := claimNextQueuedScanJob table worker.workerId startedAt heartbeatAt leasedUntil
      claim.2 = (JobStatement.claim worker.workerId startedAt heartbeatAt leasedUntil).execute
        policy table ∧ moved = (⟨worker.workerId, phaseOfClaim claim.1⟩, claim.2)) ∨
    (∃ statement : JobStatement, moved.2 = statement.execute policy table ∧
      KeepsJob worker moved.1 ∧ ∀ now, statement = .recoverStale now → event = .recover now) ∨
    (moved.2 = table ∧ KeepsJob worker moved.1) := by
  obtain ⟨_, phase⟩ := worker
  cases event with
  | submit submission now =>
    cases steps
    exact .inr (.inl ⟨.insert submission now, rfl, .refl _, nofun⟩)
  | requestCancel jobId read now =>
    cases steps
    exact .inr (.inl ⟨.requestCancel jobId read now, rfl, .refl _, nofun⟩)
  | recover now =>
    cases phase <;> cases steps
    refine .inr (.inl ⟨.recoverStale now, rfl, .refl _, ?_⟩)
    rintro _ ⟨⟩
    rfl
  | claim startedAt heartbeatAt leasedUntil =>
    cases phase <;> cases steps
    exact .inl ⟨startedAt, heartbeatAt, leasedUntil, rfl, rfl⟩
  | renew heartbeatAt leasedUntil =>
    cases phase <;> cases steps
    exact .inr (.inl ⟨.renew _ _ heartbeatAt leasedUntil, rfl, .refl _, nofun⟩)
  | complete completion =>
    cases phase <;> cases steps
    refine .inr (.inl ⟨completion.statement _, rfl, .refl _, ?_⟩)
    intro _ recovers
    cases completion <;> cases recovers
  | leave =>
    cases phase <;> cases steps
    exact .inr (.inr ⟨rfl, rfl, nofun⟩)
  | crash =>
    cases steps
    exact .inr (.inr ⟨rfl, rfl, nofun⟩)

/-! ## Every run -/

/-- Every working worker has its row. -/
def AllHaveRows (system : System Proc Worker JobTable) : Prop :=
  ∀ process, HasRow system.shared (system.locals process)

variable {moved : Worker} {system : System Proc Worker JobTable} {process : Proc}

lemma allHaveRows_move {shared : JobTable} (all : ∀ worker, HasRow shared (system.locals worker))
    (mover : HasRow shared moved) : AllHaveRows (system.move process (moved, shared)) :=
  System.forall_move (fun _ worker => HasRow shared worker) mover fun other _ => all other

lemma KeepsJob.hasRow (keeps : KeepsJob worker moved)
    (hasRow : HasRow table worker) : HasRow table moved := by
  intro jobId working
  rw [keeps.1]
  exact hasRow jobId (keeps.2 jobId working)

lemma workerMachine_keeps_rows {after : System Proc Worker JobTable} (rows : AllHaveRows system)
    (abandoned : RequeuesAbandoned policy process event system)
    (acts : (workerMachine policy).act process event system = some after) :
    AllHaveRows after := by
  obtain ⟨⟨_, shared⟩, steps, rfl⟩ := Machine.act_eq_some.mp acts
  rcases workerMachine_step steps with
    ⟨startedAt, heartbeatAt, leasedUntil, executes, isClaim⟩ |
      ⟨statement, executes, keeps, recovers⟩ | ⟨same, keeps⟩
  · obtain ⟨rfl, rfl⟩ := Prod.mk.inj isClaim
    refine allHaveRows_move (fun worker => ?_) HasRow.claim
    rw [executes]
    exact (rows worker).execute fun _ _ _ _ _ => nofun
  · cases executes
    have all : ∀ worker, HasRow (statement.execute policy system.shared) (system.locals worker) := by
      intro worker
      apply (rows worker).execute
      intro jobId working row present isJob now isRecovery stale
      exact abandoned now (recovers now isRecovery) worker jobId working row present isJob stale
    exact allHaveRows_move all (keeps.hasRow (all process))
  · cases same
    exact allHaveRows_move rows (keeps.hasRow (rows process))

/-- A complete statement moves only the row of its job. -/
lemma jobId_of_completed {completion : Completion} {jobId : String}
    (present : row ∈ table.rows) (running : row.status = .running)
    (laterPresent : later ∈ ((completion.statement jobId).execute policy table).rows)
    (sameId : later.jobId = row.jobId) (moved : later.status ≠ .running) :
    row.jobId = jobId := by
  by_contra other
  -- a row under another id is the one it was
  have unmoved : ∀ assignment : Assignment ScanJobRow.jobId,
      later ∉ (table.update (isJobIn jobId .running) assignment).rows := by
    intro assignment mem
    obtain ⟨old, wasPresent, rfl⟩ := Table.mem_update.mp mem
    split at sameId
    · rename_i selected
      have isJob := (isJobIn_eq_true.mp selected).1
      exact other (sameId.symm.trans ((assignment.keepsKey old).trans isJob))
    · rename_i unselected
      rw [if_neg unselected] at moved
      exact moved (Table.eq_of_key wasPresent present sameId ▸ running)
  cases completion <;> exact unmoved _ laterPresent

lemma AllHaveRows.fenced (rows : AllHaveRows system) :
    Fenced policy system := by
  intro process _ _ acts row present running _ laterPresent sameId moved
  obtain ⟨⟨_, _⟩, steps, rfl⟩ := Machine.act_eq_some.mp acts
  have hasRow := rows process
  generalize system.locals process = issuer at steps hasRow
  obtain ⟨_, phase⟩ := issuer
  cases phase <;> cases steps
  rename_i jobId
  have isJob : row.jobId = jobId := jobId_of_completed present running laterPresent sameId moved
  obtain ⟨attended, attendedPresent, attendedJob, attends⟩ := hasRow jobId rfl
  obtain rfl : attended = row :=
    Table.eq_of_key attendedPresent present (attendedJob.trans isJob.symm)
  rcases attends with ⟨-, owner⟩ | terminal
  · exact owner
  · rw [running] at terminal
    exact absurd terminal nofun

/-- In every run whose recoveries requeue no job that is still being worked on, only the
owner of a row completes it. -/
theorem completions_fenced_while_requeues_abandoned (policy : JobRecoveryPolicy)
    (workerIds : Proc → String) (schedule : List (Proc × WorkerEvent))
    (system : System Proc Worker JobTable)
    (abandoned : (workerMachine policy).Meets (RequeuesAbandoned policy) schedule
      (idleWorkers workerIds))
    (runs : (workerMachine policy).run schedule (idleWorkers workerIds) = some system) :
    Fenced policy system := by
  have initially : AllHaveRows (idleWorkers workerIds) := fun _ _ => nofun
  have rows : AllHaveRows system :=
    Machine.run_invariant AllHaveRows
      (fun _ _ _ _ held condition acts => workerMachine_keeps_rows held condition acts)
      initially abandoned runs
  exact rows.fenced

end

namespace Reference

/-- Two workers. -/
def workerIds : Bool → String
  | false => "worker-1"
  | true => "worker-2"

/-- The first worker claims the job, and the second one looks for stale jobs at `now`. -/
def recoveredAt (now : String) : List (Bool × WorkerEvent) :=
  [(false, .submit submission "00:00"), (false, .claim "00:01" "00:01" "00:31"),
    (true, .recover now)]

theorem completions_fenced_while_requeues_abandoned_leased :
    ∃ system, (workerMachine policy).run (recoveredAt "00:20") (idleWorkers workerIds) =
        some system ∧
      (system.locals false).phase = .working "job" ∧ attempted ∈ system.shared.rows ∧
      Fenced policy system := by
  refine ⟨_, rfl, rfl, by decide +kernel, ?_⟩
  apply completions_fenced_while_requeues_abandoned policy workerIds (recoveredAt "00:20") _ _ rfl
  have unexpired : ∀ row ∈ (JobStatement.executeAll policy firstAttempt Table.empty).rows,
      isStale "00:20" row = false := by
    decide +kernel
  refine Machine.meets_cons rfl nofun
    (Machine.meets_cons rfl nofun (Machine.meets_cons rfl ?_ trivial))
  rintro _ ⟨⟩ _ _ - row present - stale
  exact absurd ((unexpired row present).symm.trans stale) nofun

/-- The lease of the first worker runs out, the job is requeued and claimed by the second one, and
then the first one completes it. -/
theorem requeued_job_completed_by_first_worker : ∃ system, (workerMachine policy).run
        (recoveredAt "00:32" ++ [(true, .claim "00:33" "00:33" "01:03")])
        (idleWorkers workerIds) = some system ∧
      ¬ Fenced policy system := by
  refine ⟨_, rfl, ?_⟩
  intro fenced
  have owner := fenced false (.success "00:40" none none) _ rfl
    ((claimed "worker-2" "00:33" "00:33" "01:03").set (requeued.set attempted))
    (by decide +kernel) rfl
    ((succeeded "00:40" none none).set
      ((claimed "worker-2" "00:33" "00:33" "01:03").set (requeued.set attempted)))
    (by decide +kernel) rfl nofun
  exact absurd owner (by decide +kernel)

end Reference

end Parqonaut.Store
