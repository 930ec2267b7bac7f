import Parqonaut.Store.WorkerTasks

/-!
# Running jobs

## Acknowledged cancellation

A client that is told `CancelRequestedForRunning` expects the job not to succeed. The success
statement does not look at the cancel column, scans never test their flag, and other jobs do not
look again between their last test and that statement.
-/

namespace Parqonaut.Store

open Effects Sql JobTable Machine

variable {policy : WorkerPolicy} {stamp : Nat → String} {Proc : Type} [DecidableEq Proc]
  {worker : TaskWorker} {table : JobTable} {event : TaskEvent} {task next : JobTask}
  {workerId leasedUntil : String} {now : Nat} {action : TaskAction} {statement : JobStatement}
  {system after : System Proc TaskWorker JobTable} {process : Proc} {row later : ScanJobRow}
  {jobId : String}

/-! ### Rows -/

/-- The job is over and has not succeeded. -/
def Settled (row : ScanJobRow) : Prop := row.status = .failed ∨ row.status = .canceled

/-- The job is not a scan, it is not over, and its cancellation was requested. -/
def Pending (row : ScanJobRow) : Prop :=
  row.jobKind ≠ .scan ∧ row.cancelRequested = true ∧ (row.status = .queued ∨ row.status = .running)

/-- What becomes of a row under a statement other than the success of its job. -/
structure Heeds (row later : ScanJobRow) : Prop where
  kind : later.jobKind = row.jobKind
  settled : Settled row → Settled later
  pending : Pending row → Settled later ∨ Pending later

lemma Heeds.refl (row : ScanJobRow) : Heeds row row := ⟨rfl, id, .inr⟩

lemma Heeds.trans {last : ScanJobRow} (first : Heeds row later) (second : Heeds later last) :
    Heeds row last where
  kind := second.kind.trans first.kind
  settled := fun settled => second.settled (first.settled settled)
  pending := fun pending => (first.pending pending).elim (.inl ∘ second.settled) second.pending

lemma Settled.isTerminal (settled : Settled row) : row.status.isTerminal = true := by
  rcases settled with failed | canceled
  · rw [failed]
    rfl
  · rw [canceled]
    rfl

lemma Settled.not_running (settled : Settled row) : row.status ≠ .running := by
  intro running
  have terminal := settled.isTerminal
  rw [running] at terminal
  cases terminal

variable {base : JobRecoveryPolicy}

lemma RowMoves.kind_eq (moves : RowMoves base statement row later) :
    later.jobKind = row.jobKind := by
  cases moves <;> rfl

lemma RowMoves.heeds (moves : RowMoves base statement row later)
    (other : ∀ jobId completedAt runId resultRefJson,
      statement ≠ .completeSuccess jobId completedAt runId resultRefJson) : Heeds row later := by
  refine ⟨moves.kind_eq, fun settled => ?_, fun ⟨kind, requested, isOpen⟩ => ?_⟩
  · exact absurd (moves.not_terminal.symm.trans settled.isTerminal) Bool.false_ne_true
  · cases moves with
    | claim => exact .inr ⟨kind, requested, .inr rfl⟩
    | renew => exact .inr ⟨kind, requested, isOpen⟩
    | giveUp | failure => exact .inl (.inl rfl)
    | requeue => exact .inr ⟨kind, requested, .inl rfl⟩
    | cancelQueued | canceled => exact .inl (.inr rfl)
    | cancelRunning => exact .inr ⟨kind, rfl, isOpen⟩
    | success => exact absurd rfl (other _ _ _ _)

/-! ### Tasks -/

/-- How a job task comes to the success statement. -/
lemma TaskMoves.succeeding (moves : TaskMoves workerId table now action task next)
    (succeeds : next.stage = .succeeding) :
    task.stage = .succeeding ∨ task.kind = .scan ∨
      (action = .test ∧ task.stage = .executed ∧ task.cancelled = false) := by
  cases moves with
  | start =>
    dsimp only at succeeds
    split at succeeds <;> cases succeeds
  | begins =>
    rw [JobTask.tested] at succeeds
    dsimp only at succeeds
    split at succeeds <;> cases succeeds
  | finish =>
    dsimp only at succeeds
    split at succeeds
    · exact .inr (.inl ‹_›)
    · cases succeeds
  | decides executed =>
    rw [JobTask.tested] at succeeds
    dsimp only at succeeds
    split at succeeds
    · cases succeeds
    · exact .inr (.inr ⟨rfl, executed, Bool.eq_false_iff.mpr ‹_›⟩)
  | fails => cases succeeds
  | wake | look | renew | lapse => exact .inl succeeds

/-- Every claimed job has a row of its kind. -/
def KindsAgree (system : System Proc TaskWorker JobTable) : Prop :=
  ∀ process task, (system.locals process).activity = .busy task →
    ∃ row ∈ system.shared.rows, row.jobId = task.jobId ∧ row.jobKind = task.kind

/-- An acknowledged cancellation can still be honoured: the job is over without success, or no task
is about to report one. -/
def Honours (jobId : String) (system : System Proc TaskWorker JobTable) : Prop :=
  ∃ row ∈ system.shared.rows, row.jobId = jobId ∧
    (Settled row ∨ Pending row ∧ ∀ process task, (system.locals process).activity = .busy task →
      task.jobId = jobId → task.stage ≠ .succeeding)

/-- The condition on a step. A request for a running job, not a scan, comes while no task of it is
past its last test; and when a task makes its last test, its flag is set if the cancellation was
requested. -/
def SeesCancel (process : Proc) (event : TaskEvent) (system : System Proc TaskWorker JobTable) :
    Prop :=
  match event.action with
  | .requestCancel jobId (some .running) => ∀ row ∈ system.shared.rows, row.jobId = jobId →
      row.status = .running → row.jobKind ≠ .scan ∧
        ∀ other task, (system.locals other).activity = .busy task → task.jobId = jobId →
          task.stage ≠ .succeeding
  | .test => ∀ task, (system.locals process).activity = .busy task → task.stage = .executed →
      ∀ row ∈ system.shared.rows, row.jobId = task.jobId → row.cancelRequested = true →
        task.cancelled = true
  | _ => True

lemma kindsAgree_step (agrees : KindsAgree system)
    (acts : (taskMachine policy stamp).act process event system = some after) :
    KindsAgree after := by
  obtain ⟨_, advances, rfl⟩ := taskMachine_act.mp acts
  have tracks : Table.Tracks (fun row later => later.jobKind = row.jobKind) system.shared
      ((system.locals process).tableAfter policy stamp event system.shared) :=
    tableAfter_tracks (fun _ => rfl) (fun first second => second.trans first)
      fun _ _ _ _ moves => moves.kind_eq
  have carried : ∀ row ∈ system.shared.rows, ∃ later ∈ ((system.locals process).tableAfter policy
      stamp event system.shared).rows, later.jobId = row.jobId ∧ later.jobKind = row.jobKind :=
    tracks
  intro other task busy
  by_cases mover : other = process
  · subst mover
    rw [System.move_self] at busy
    dsimp only at busy
    subst busy
    rcases busy_of_advance advances with ⟨-, row, -, -, oldest, rfl⟩ | ⟨old, wasBusy, same⟩
    · exact carried row (oldestQueued_eq_some oldest).1
    · obtain ⟨row, present, isJob, isKind⟩ := agrees other old wasBusy
      obtain ⟨later, laterPresent, sameId, sameKind⟩ := carried row present
      have kept : task.jobId = old.jobId ∧ task.kind = old.kind := by
        rcases same with ⟨-, rfl⟩ | moves
        · exact ⟨rfl, rfl⟩
        · exact ⟨moves.jobId_eq, moves.kind_eq⟩
      exact ⟨later, laterPresent, (sameId.trans isJob).trans kept.1.symm,
        (sameKind.trans isKind).trans kept.2.symm⟩
  · rw [System.move_of_ne mover] at busy
    obtain ⟨row, present, isJob, isKind⟩ := agrees other task busy
    obtain ⟨later, laterPresent, sameId, sameKind⟩ := carried row present
    exact ⟨later, laterPresent, sameId.trans isJob, sameKind.trans isKind⟩

/-- No task of a pending job comes to the success statement. -/
lemma not_succeeding_step (agrees : KindsAgree system) (sees : SeesCancel process event system)
    (present : row ∈ system.shared.rows) (pending : Pending row)
    (tasks : ∀ other task, (system.locals other).activity = .busy task → task.jobId = row.jobId →
      task.stage ≠ .succeeding)
    (acts : (taskMachine policy stamp).act process event system = some after) :
    ∀ other task, (after.locals other).activity = .busy task → task.jobId = row.jobId →
      task.stage ≠ .succeeding := by
  obtain ⟨_, advances, rfl⟩ := taskMachine_act.mp acts
  intro other task busy isJob succeeds
  by_cases mover : other = process
  · subst mover
    rw [System.move_self] at busy
    dsimp only at busy
    subst busy
    rcases busy_of_advance advances with ⟨-, _, -, -, -, rfl⟩ |
      ⟨old, wasBusy, ⟨-, rfl⟩ | moves⟩
    · cases succeeds
    · exact tasks other task wasBusy isJob succeeds
    · have oldJob := moves.jobId_eq.symm.trans isJob
      rcases moves.succeeding succeeds with was | scan | ⟨isTest, executed, unset⟩
      · exact tasks other old wasBusy oldJob was
      · obtain ⟨_, samePresent, sameId, sameKind⟩ := agrees other old wasBusy
        obtain rfl := Table.eq_of_key samePresent present (sameId.trans oldJob)
        exact pending.1 (sameKind.trans scan)
      · rw [SeesCancel, isTest] at sees
        have set := sees old wasBusy executed row present oldJob.symm pending.2.1
        exact absurd (unset.symm.trans set) Bool.false_ne_true
  · rw [System.move_of_ne mover] at busy
    exact tasks other task busy isJob succeeds

variable {completedAt : String} {runId resultRefJson : Option String}

/-- A success statement comes from a task that is about to report success. -/
lemma succeeding_of_statement
    {activity : Activity} (advances : worker.advance table event = some activity)
    (isStatement : worker.statement policy stamp event =
      some (.completeSuccess jobId completedAt runId resultRefJson)) :
    ∃ task, worker.activity = .busy task ∧ task.jobId = jobId ∧ task.stage = .succeeding := by
  obtain ⟨acts, task, busy, isTask⟩ := statement_eq_some isStatement
  rw [TaskWorker.advance, busy, acts] at advances
  exact ⟨task, busy, isTask, (Option.ite_none_right_eq_some.mp advances).1⟩

/-- The success of another job, or of a job that is not running, leaves a row as it is. -/
lemma mem_completeSuccess {other : String} (present : row ∈ table.rows)
    (unmoved : row.jobId = other → row.status ≠ .running) :
    row ∈ ((JobStatement.completeSuccess other completedAt runId resultRefJson).execute base
      table).rows := by
  refine Table.mem_update.mpr ⟨row, present, if_neg ?_⟩
  intro selected
  obtain ⟨isJob, running⟩ := isJobIn_eq_true.mp selected
  exact unmoved isJob running

lemma honours_step (agrees : KindsAgree system) (honours : Honours jobId system)
    (sees : SeesCancel process event system)
    (acts : (taskMachine policy stamp).act process event system = some after) :
    Honours jobId after := by
  obtain ⟨row, present, rfl, held⟩ := honours
  obtain ⟨_, advances, rfl⟩ := id (taskMachine_act.mp acts)
  by_cases isSuccess : ∃ other completedAt runId resultRefJson,
      (system.locals process).statement policy stamp event =
        some (.completeSuccess other completedAt runId resultRefJson)
  · obtain ⟨other, completedAt, runId, resultRefJson, isStatement⟩ := isSuccess
    obtain ⟨task, busy, isJob, succeeding⟩ := succeeding_of_statement advances isStatement
    have unmoved : row.jobId = other → row.status ≠ .running := by
      intro same
      rcases held with settled | ⟨-, tasks⟩
      · exact settled.not_running
      · exact absurd succeeding (tasks process task busy (isJob.trans same.symm))
    refine ⟨row, ?_, rfl, ?_⟩
    · rw [System.move_shared]
      dsimp only
      rw [TaskWorker.tableAfter, isStatement]
      exact mem_completeSuccess present unmoved
    · refine held.imp id fun waits => ⟨waits.1, ?_⟩
      exact not_succeeding_step agrees sees present waits.1 waits.2 acts
  · have tracks : Table.Tracks Heeds system.shared
        ((system.locals process).tableAfter policy stamp event system.shared) := by
      apply tableAfter_tracks Heeds.refl fun first second => first.trans second
      intro _ row later isStatement moves
      apply moves.heeds
      rintro other completedAt runId resultRefJson rfl
      exact isSuccess ⟨other, completedAt, runId, resultRefJson, isStatement⟩
    obtain ⟨later, laterPresent, sameId, heeds⟩ := tracks row present
    refine ⟨later, laterPresent, sameId, ?_⟩
    rcases held with settled | ⟨pending, tasks⟩
    · exact .inl (heeds.settled settled)
    · exact (heeds.pending pending).imp id fun laterPending =>
        ⟨laterPending, not_succeeding_step agrees sees present pending tasks acts⟩

/-! ### Runs -/

variable {read : Option JobStatus}

/-- An acknowledged request has read and found the job running. -/
lemma running_of_acknowledged {now : String}
    (acknowledged : (cancelAfterRead table jobId read now).1 = .ok .cancelRequestedForRunning) :
    read = some .running ∧ ∃ row ∈ table.rows, row.jobId = jobId ∧ row.status = .running := by
  have found : ∀ status : JobStatus, table.affected (isJobIn jobId status) ≠ 0 →
      ∃ row ∈ table.rows, row.jobId = jobId ∧ row.status = status := by
    intro status some
    obtain ⟨row, present, selected⟩ := List.countP_pos_iff.mp (Nat.pos_of_ne_zero some)
    exact ⟨row, present, isJobIn_eq_true.mp selected⟩
  cases read with
  | none => cases acknowledged
  | some status =>
    cases status with
    | succeeded | failed | canceled => cases acknowledged
    | queued =>
      rw [cancelAfterRead, updateJobIn] at acknowledged
      dsimp only at acknowledged
      split at acknowledged <;> cases acknowledged
    | running =>
      rw [cancelAfterRead, updateJobIn] at acknowledged
      dsimp only at acknowledged
      split at acknowledged
      · cases acknowledged
      · exact ⟨rfl, found .running ‹_›⟩

/-- After an acknowledged request the row of the job is pending. -/
lemma honours_of_acknowledged {time : Nat}
    (sees : SeesCancel process ⟨.requestCancel jobId read, time⟩ system)
    (acknowledged : (cancelAfterRead system.shared jobId read (stamp time)).1 =
      .ok .cancelRequestedForRunning)
    (acts : (taskMachine policy stamp).act process ⟨.requestCancel jobId read, time⟩ system =
      some after) : Honours jobId after := by
  obtain ⟨rfl, row, present, isJob, running⟩ := running_of_acknowledged acknowledged
  obtain ⟨kind, tasks⟩ := sees row present isJob running
  obtain ⟨_, advances, rfl⟩ := taskMachine_act.mp acts
  cases advances
  refine ⟨cancelRequested.set row, Table.mem_update.mpr ⟨row, present,
    if_pos (isJobIn_eq_true.mpr ⟨isJob, running⟩)⟩, isJob, .inr ⟨⟨kind, rfl, .inr running⟩, ?_⟩⟩
  intro other task busy
  rw [System.move_same_local] at busy
  exact tasks other task busy

/-- In every run whose steps meet the condition, a job whose cancellation was acknowledged while it
was running never succeeds. -/
theorem canceled_jobs_never_succeed (policy : WorkerPolicy) (stamp : Nat → String)
    (workerIds : Proc → String) {before rest : List (Proc × TaskEvent)} {process : Proc}
    {jobId : String} {read : Option JobStatus} {time : Nat}
    {middle last : System Proc TaskWorker JobTable}
    (sees : (taskMachine policy stamp).Meets SeesCancel
      (before ++ (process, ⟨.requestCancel jobId read, time⟩) :: rest) (idleTasks workerIds))
    (reaches : (taskMachine policy stamp).run before (idleTasks workerIds) = some middle)
    (acknowledged : (cancelAfterRead middle.shared jobId read (stamp time)).1 =
      .ok .cancelRequestedForRunning)
    (runs : (taskMachine policy stamp).run ((process, ⟨.requestCancel jobId read, time⟩) :: rest)
      middle = some last) :
    ∀ row ∈ last.shared.rows, row.jobId = jobId → row.status ≠ .succeeded := by
  obtain ⟨first, second⟩ := meets_append sees reaches
  have agrees : KindsAgree middle := run_invariant KindsAgree
    (fun _ _ _ _ held _ acts => kindsAgree_step held acts)
    (fun _ _ busy => Activity.noConfusion busy) first reaches
  obtain ⟨next, acts, runs⟩ := run_cons.mp runs
  have kept := run_invariant
    (fun system => KindsAgree system ∧ Honours jobId system)
    (fun _ _ _ _ held sees acts =>
      ⟨kindsAgree_step held.1 acts, honours_step held.1 held.2 sees acts⟩)
    ⟨kindsAgree_step agrees acts, honours_of_acknowledged second.1 acknowledged acts⟩
    (second.2 next acts) runs
  obtain ⟨_, present, isJob, held⟩ := kept.2
  intro _ otherPresent sameJob succeeded
  obtain rfl := Table.eq_of_key otherPresent present (sameJob.trans isJob.symm)
  rcases held with (failed | canceled) | ⟨⟨-, -, queued | running⟩, -⟩
  · exact absurd (failed.symm.trans succeeded) nofun
  · exact absurd (canceled.symm.trans succeeded) nofun
  · exact absurd (queued.symm.trans succeeded) nofun
  · exact absurd (running.symm.trans succeeded) nofun

namespace Reference

/-- The heartbeat sees the request while the job executes, and the job is canceled. -/
def seenInTime : List (Bool × TaskEvent) :=
  [(false, ⟨.wake, 4⟩), (false, ⟨.look true, 4⟩), (false, ⟨.finish true, 5⟩),
    (false, ⟨.test, 5⟩), (false, ⟨.completeCanceled true, 6⟩)]

theorem canceled_repair_never_succeeds : ∃ middle last,
    (taskMachine timing toString).run (startedJob .repair ++ [(false, ⟨.test, 2⟩)])
      (idleTasks taskIds) = some middle ∧
    (taskMachine timing toString).run (cancels :: seenInTime) middle = some last ∧
    ∀ row ∈ last.shared.rows, row.jobId = "job" → row.status ≠ .succeeded := by
  refine ⟨_, _, rfl, rfl, ?_⟩
  refine @canceled_jobs_never_succeed Bool _ timing toString taskIds
    (startedJob .repair ++ [(false, ⟨.test, 2⟩)]) seenInTime true "job" (some .running) 3 _ _ ?_ rfl
    (by decide +kernel) rfl
  refine meets_cons rfl trivial (meets_cons rfl trivial
    (meets_cons rfl trivial (meets_cons rfl ?_ (meets_cons rfl ?_
      (meets_cons rfl trivial (meets_cons rfl trivial (meets_cons rfl trivial
        (meets_cons rfl ?_ (meets_cons rfl trivial trivial)))))))))
  · rintro task ⟨⟩ ⟨⟩
  · intro row _ _ _
    refine ⟨?_, ?_⟩
    · revert row
      decide +kernel
    · rintro (_ | _) task ⟨⟩ _
      exact nofun
  · rintro _ ⟨⟩ _ _ _ _ _
    rfl

/-- A scan does not test its flag, and succeeds after its cancellation was acknowledged. -/
theorem canceled_scan_succeeds : ∃ middle last,
    (taskMachine timing toString).run (startedJob .scan) (idleTasks taskIds) = some middle ∧
    (cancelAfterRead middle.shared "job" (some .running) (toString 3)).1 =
      .ok .cancelRequestedForRunning ∧
    (taskMachine timing toString).run (cancels :: [(false, ⟨.finish true, 4⟩),
      (false, ⟨.completeSuccess (some "run") none true, 5⟩)]) middle = some last ∧
    ∃ row ∈ last.shared.rows, row.jobId = "job" ∧ row.status = .succeeded :=
  ⟨_, _, rfl, by decide +kernel, rfl, by decide +kernel⟩

end Reference

/-!
## Lease of a live worker

The heartbeat of a worker renews the lease in time, but ends once it finds the cancel flag set,
while the job goes on until it looks itself. A live worker keeps its job in every run in which a
job whose flag is set is over before the lease that was renewed last runs out.
-/

/-! ### Conditions on a step -/

/-- The store does not reject the statement of the event. -/
def TaskAction.accepted : TaskAction → Bool
  | .start succeeds | .look succeeds | .renew succeeds | .completeSuccess _ _ succeeds
  | .completeCanceled succeeds | .completeFailure _ _ succeeds => succeeds
  | .submit _ | .requestCancel .. | .recover | .claim _ | .test | .finish _ | .wake | .crash => true

/-- Statements succeed, and every heartbeat that goes on renews its lease at its interval. -/
structure Timely (policy : WorkerPolicy) (event : TaskEvent)
    (system : System Proc TaskWorker JobTable) : Prop where
  accepted : event.action.accepted = true
  renewed : ∀ process task, (system.locals process).activity = .busy task →
    task.stage ≠ .failing → task.heartbeat ≠ .ended →
      event.time ≤ task.renewedAt + policy.heartbeatInterval

/-- A job whose cancel flag is set is over before its lease runs out. -/
def EndsInTime (policy : WorkerPolicy) (event : TaskEvent)
    (system : System Proc TaskWorker JobTable) : Prop :=
  ∀ process task, (system.locals process).activity = .busy task → task.stage ≠ .failing →
    task.cancelled = true → event.time ≤ task.renewedAt + policy.leaseDuration

/-! ### Rows -/

/-- The row runs under the worker until the given time. -/
structure Leased (workerId leasedUntil : String) (row : ScanJobRow) : Prop where
  running : row.status = .running
  owner : row.workerId = some workerId
  expires : row.leasedUntil = some leasedUntil

/-- What becomes of a row that the statement of another process may touch. -/
structure Spared (workerId leasedUntil : String) (row later : ScanJobRow) : Prop where
  final : row.status.isTerminal = true → later.status.isTerminal = true
  leased : Leased workerId leasedUntil row →
    later.status.isTerminal = true ∨ Leased workerId leasedUntil later

lemma Spared.refl (row : ScanJobRow) : Spared workerId leasedUntil row row := ⟨id, .inr⟩

lemma Spared.trans {last : ScanJobRow} (first : Spared workerId leasedUntil row later)
    (second : Spared workerId leasedUntil later last) : Spared workerId leasedUntil row last where
  final := fun terminal => second.final (first.final terminal)
  leased := fun leased => (first.leased leased).elim (.inl ∘ second.final) second.leased

lemma Leased.not_queued (leased : Leased workerId leasedUntil row) : row.status ≠ .queued := by
  rw [leased.running]
  exact nofun

lemma Leased.not_stale (leased : Leased workerId leasedUntil row) {now : String}
    (unexpired : ¬ leasedUntil < now) : isStale now row = false := by
  rw [isStale, leased.expires, Option.any_some, decide_eq_false unexpired, Bool.and_false]

lemma RowMoves.spared {base : JobRecoveryPolicy} (moves : RowMoves base statement row later)
    (unexpired : ∀ now, statement = .recoverStale now → ¬ leasedUntil < now)
    (foreign : ∀ jobId heartbeatAt renewedUntil,
      statement ≠ .renew jobId workerId heartbeatAt renewedUntil) :
    Spared workerId leasedUntil row later := by
  refine ⟨fun terminal => ?_, fun leased => ?_⟩
  · exact absurd (moves.not_terminal.symm.trans terminal) Bool.false_ne_true
  · cases moves with
    | claim queued | cancelQueued queued => exact absurd queued leased.not_queued
    | renew _ owner =>
      obtain rfl := Option.some.inj (owner.symm.trans leased.owner)
      exact absurd rfl (foreign _ _ _)
    | giveUp stale exhausted | requeue stale retries =>
      exact absurd ((leased.not_stale (unexpired _ rfl)).symm.trans stale) Bool.false_ne_true
    | cancelRunning running => exact .inr ⟨running, leased.owner, leased.expires⟩
    | success running | failure running | canceled running => exact .inl rfl

/-! ### Tasks -/

/-- A job task that has failed only reports it. -/
lemma TaskMoves.executes (moves : TaskMoves workerId table now action task next)
    (executes : next.stage ≠ .failing) : task.stage ≠ .failing := by
  cases moves with
  | start stage | begins stage | finish stage | decides stage => simp [stage]
  | fails => exact absurd rfl executes
  | wake | look | renew | lapse => exact executes

/-- What a step of the two tasks means for the lease, unless it is a renewal. -/
structure SameLease (task next : JobTask) : Prop where
  jobId : next.jobId = task.jobId
  renewedAt : next.renewedAt = task.renewedAt
  flagged : (task.heartbeat = .ended → task.cancelled = true) →
    next.heartbeat = .ended → next.cancelled = true

lemma TaskMoves.sameLease (moves : TaskMoves workerId table now action task next)
    (other : ∀ succeeds, action ≠ .renew succeeds) (executes : next.stage ≠ .failing) :
    SameLease task next := by
  refine ⟨moves.jobId_eq, ?_, fun flagged ended => ?_⟩
  · cases moves with
    | renew => exact absurd rfl (other _)
    | _ => rfl
  · cases moves with
    | start => simp [flagged ended]
    | begins | finish | decides => exact flagged ended
    | fails => exact absurd rfl executes
    | wake =>
      dsimp only at ended
      split at ended
      · assumption
      · cases ended
    | look => cases ended
    | renew | lapse => exact absurd rfl (other _)

/-! ### Runs -/

/-- The job is over, or the worker has it, and its heartbeat goes on unless it was canceled. -/
def Holds (policy : WorkerPolicy) (stamp : Nat → String) (table : JobTable) (workerId : String)
    (task : JobTask) : Prop :=
  ∃ row ∈ table.rows, row.jobId = task.jobId ∧ (row.status.isTerminal = true ∨
    Leased workerId (stamp (task.renewedAt + policy.leaseDuration)) row ∧
      (task.heartbeat = .ended → task.cancelled = true))

/-- Every worker that executes a job holds it. -/
structure AllHold (policy : WorkerPolicy) (stamp : Nat → String) (workerIds : Proc → String)
    (system : System Proc TaskWorker JobTable) : Prop where
  ids : ∀ process, (system.locals process).workerId = workerIds process
  holds : ∀ process task, (system.locals process).activity = .busy task → task.stage ≠ .failing →
    Holds policy stamp system.shared (workerIds process) task

section

variable {workerIds : Proc → String}

omit [DecidableEq Proc] in
/-- At the time of a step, the lease of a job that is executed has not run out. -/
lemma unexpired_of_timely (ordered : ∀ a b, stamp a < stamp b → a < b)
    (shorter : policy.heartbeatInterval < policy.leaseDuration) (timely : Timely policy event system)
    (ends : EndsInTime policy event system) (busy : (system.locals process).activity = .busy task)
    (executes : task.stage ≠ .failing) (flagged : task.heartbeat = .ended → task.cancelled = true) :
    ¬ stamp (task.renewedAt + policy.leaseDuration) < stamp event.time := by
  intro expired
  have later := ordered _ _ expired
  by_cases ended : task.heartbeat = .ended
  · have bound := ends process task busy executes (flagged ended)
    omega
  · have bound := timely.renewed process task busy executes ended
    omega

/-- A job that is over stays so. -/
lemma tableAfter_terminal (worker : TaskWorker) (event : TaskEvent) (present : row ∈ table.rows)
    (terminal : row.status.isTerminal = true) :
    ∃ later ∈ (worker.tableAfter policy stamp event table).rows, later.jobId = row.jobId ∧
      later.status.isTerminal = true := by
  have tracks : Table.Tracks (fun row later => row.status.isTerminal = true →
      later.status.isTerminal = true) table (worker.tableAfter policy stamp event table) := by
    refine tableAfter_tracks (fun _ => id) (fun first second => second ∘ first) ?_
    intro _ row later _ moves terminal
    exact absurd (moves.not_terminal.symm.trans terminal) Bool.false_ne_true
  obtain ⟨later, laterPresent, sameId, final⟩ := tracks row present
  exact ⟨later, laterPresent, sameId, final terminal⟩

/-- The step of another process leaves a worker its job. -/
lemma Holds.other (unexpired : (task.heartbeat = .ended → task.cancelled = true) →
      ¬ stamp (task.renewedAt + policy.leaseDuration) < stamp event.time)
    (holds : Holds policy stamp table workerId task)
    (foreign : worker.workerId = workerId → ∀ succeeds, event.action ≠ .renew succeeds) :
    Holds policy stamp (worker.tableAfter policy stamp event table) workerId task := by
  obtain ⟨row, present, isJob, held⟩ := holds
  rcases held with terminal | ⟨leased, flagged⟩
  · obtain ⟨later, laterPresent, sameId, final⟩ := tableAfter_terminal worker event present terminal
    exact ⟨later, laterPresent, sameId.trans isJob, .inl final⟩
  · have tracks : Table.Tracks (Spared workerId (stamp (task.renewedAt + policy.leaseDuration)))
        table (worker.tableAfter policy stamp event table) := by
      apply tableAfter_tracks Spared.refl fun first second => first.trans second
      intro _ row later isStatement moves
      apply moves.spared
      · rintro _ rfl
        rw [statement_eq_some isStatement]
        exact unexpired flagged
      · rintro _ _ _ rfl
        obtain ⟨same, renews⟩ := statement_eq_some isStatement
        exact foreign same.symm true renews
    obtain ⟨later, laterPresent, sameId, spared⟩ := tracks row present
    exact ⟨later, laterPresent, sameId.trans isJob, (spared.leased leased).imp id (⟨·, flagged⟩)⟩

/-- A worker that renews its lease holds the job until the new time. -/
lemma Holds.renewed (renews : event.action = .renew true) (busy : worker.activity = .busy task)
    (holds : Holds policy stamp table worker.workerId task)
    (moves : TaskMoves worker.workerId table event.time event.action task next)
    (executes : next.stage ≠ .failing) :
    Holds policy stamp (worker.tableAfter policy stamp event table) worker.workerId next := by
  have isStatement : worker.statement policy stamp event = some (.renew task.jobId worker.workerId
      (stamp event.time) (stamp (event.time + policy.leaseDuration))) := by
    rw [TaskWorker.statement, renews, TaskWorker.task, busy]
    rfl
  obtain ⟨row, present, isJob, held⟩ := holds
  rw [renews] at moves
  rcases held with terminal | ⟨leased, _⟩
  · obtain ⟨later, laterPresent, sameId, final⟩ := tableAfter_terminal worker event present terminal
    exact ⟨later, laterPresent, (sameId.trans isJob).trans moves.jobId_eq.symm, .inl final⟩
  · have selected : (isJobIn task.jobId .running row &&
        decide (row.workerId = some worker.workerId)) = true := by
      rw [isJobIn_eq_true.mpr ⟨isJob, leased.running⟩, decide_eq_true leased.owner]
      rfl
    cases moves with
    | fails => exact absurd rfl executes
    | renew =>
      refine ⟨(JobTable.renewed (stamp event.time)
        (stamp (event.time + policy.leaseDuration))).set row, ?_, isJob,
        .inr ⟨⟨leased.running, leased.owner, rfl⟩, nofun⟩⟩
      rw [TaskWorker.tableAfter, isStatement]
      exact Table.mem_update.mpr ⟨row, present, if_pos selected⟩
    | lapse _ lost =>
      have found : table.holdsLease task.jobId worker.workerId = true :=
        decide_eq_true (List.countP_pos_iff.mpr ⟨row, present, selected⟩)
      rw [found] at lost
      cases lost

/-- A claim gives the worker the job. -/
lemma Holds.claimed {startedAt : String} (claims : event.action = .claim startedAt)
    (oldest : oldestQueued table = some row) :
    Holds policy stamp (worker.tableAfter policy stamp event table) worker.workerId
      (.new row event.time) := by
  have isStatement : worker.statement policy stamp event = some (.claim worker.workerId startedAt
      (stamp event.time) (stamp (event.time + policy.leaseDuration))) := by
    rw [TaskWorker.statement, claims]
  refine ⟨(JobTable.claimed worker.workerId startedAt (stamp event.time)
    (stamp (event.time + policy.leaseDuration))).set row, ?_, rfl, .inr ⟨⟨rfl, rfl, rfl⟩, nofun⟩⟩
  rw [TaskWorker.tableAfter, isStatement]
  simp only [JobStatement.execute, claimNextQueuedScanJob, oldest]
  exact Table.mem_update.mpr ⟨row, (oldestQueued_eq_some oldest).1, if_pos (decide_eq_true rfl)⟩

lemma Holds.sameLease (holds : Holds policy stamp table workerId task)
    (same : SameLease task next) : Holds policy stamp table workerId next := by
  obtain ⟨row, present, isRow, held⟩ := holds
  refine ⟨row, present, isRow.trans same.jobId.symm, held.imp id ?_⟩
  rintro ⟨leased, flagged⟩
  rw [same.renewedAt]
  exact ⟨leased, same.flagged flagged⟩

lemma allHold_step (injective : Function.Injective workerIds)
    (ordered : ∀ a b, stamp a < stamp b → a < b)
    (shorter : policy.heartbeatInterval < policy.leaseDuration)
    (all : AllHold policy stamp workerIds system) (timely : Timely policy event system)
    (ends : EndsInTime policy event system)
    (acts : (taskMachine policy stamp).act process event system = some after) :
    AllHold policy stamp workerIds after := by
  obtain ⟨_, advances, rfl⟩ := taskMachine_act.mp acts
  constructor
  · exact System.forall_move (fun other (worker : TaskWorker) =>
      worker.workerId = workerIds other)
      (all.ids process) fun other _ => all.ids other
  · intro other task busy executes
    by_cases mover : other = process
    · subst mover
      rw [System.move_self] at busy
      dsimp only at busy
      subst busy
      rw [← all.ids other, System.move_shared]
      rcases busy_of_advance advances with
        ⟨startedAt, row, claims, -, oldest, rfl⟩ | ⟨old, wasBusy, same⟩
      · exact .claimed claims oldest
      · have wasExecuting : old.stage ≠ .failing := by
          rcases same with ⟨-, rfl⟩ | moves
          · exact executes
          · exact moves.executes executes
        have held := all.holds other old wasBusy wasExecuting
        rw [← all.ids other] at held
        by_cases renews : event.action = .renew true
        · rcases same with ⟨client, -⟩ | moves
          · rw [renews] at client
            cases client
          · exact held.renewed renews wasBusy moves executes
        · have unrenewed : ∀ succeeds, event.action ≠ .renew succeeds := by
            rintro (_ | _) isRenewal
            · have accepted := timely.accepted
              rw [isRenewal] at accepted
              cases accepted
            · exact renews isRenewal
          have sameLease : SameLease old task := by
            rcases same with ⟨-, rfl⟩ | moves
            · exact ⟨rfl, rfl, id⟩
            · exact moves.sameLease unrenewed executes
          exact (held.other (unexpired_of_timely ordered shorter timely ends wasBusy wasExecuting)
            fun _ => unrenewed).sameLease sameLease
    · rw [System.move_of_ne mover] at busy
      refine (all.holds other task busy executes).other
        (unexpired_of_timely ordered shorter timely ends busy executes) ?_
      intro same
      exact absurd (injective ((all.ids process).symm.trans same)) (Ne.symm mover)

/-- The event looks for stale or queued jobs. -/
def TaskAction.TakesJobs (action : TaskAction) : Prop :=
  action = .recover ∨ ∃ startedAt, action = .claim startedAt

/-- Recovery and claims leave the rows of finished jobs and of unexpired leases as they are. -/
lemma mem_tableAfter (takes : event.action.TakesJobs) (present : row ∈ table.rows)
    (held : row.status.isTerminal = true ∨
      Leased workerId leasedUntil row ∧ ¬ leasedUntil < stamp event.time) :
    row ∈ (worker.tableAfter policy stamp event table).rows := by
  have tracks : Table.Tracks (fun row later => (row.status.isTerminal = true ∨
      Leased workerId leasedUntil row ∧ ¬ leasedUntil < stamp event.time) → later = row) table
      (worker.tableAfter policy stamp event table) := by
    refine tableAfter_tracks (fun _ _ => rfl) ?_ ?_
    · intro _ _ _ same next held
      rw [next (same held ▸ held), same held]
    · rintro statement row later isStatement moves (terminal | ⟨leased, unexpired⟩)
      · exact absurd (moves.not_terminal.symm.trans terminal) Bool.false_ne_true
      · rcases takes with recovers | ⟨_, claims⟩
        · rw [TaskWorker.statement, recovers] at isStatement
          cases isStatement
          have fresh := leased.not_stale unexpired
          cases moves with
          | giveUp stale exhausted | requeue stale retries =>
            exact absurd (fresh.symm.trans stale) Bool.false_ne_true
        · rw [TaskWorker.statement, claims] at isStatement
          cases isStatement
          cases moves with
          | claim queued => exact absurd queued leased.not_queued
  obtain ⟨_, laterPresent, -, same⟩ := tracks row present
  exact same held ▸ laterPresent

end

/-- While statements succeed, heartbeats renew their leases in time and canceled jobs end before
their leases, no recovery and no claim touches a job that a worker executes. -/
theorem live_jobs_kept {workerIds : Proc → String} (injective : Function.Injective workerIds)
    (ordered : ∀ a b, stamp a < stamp b → a < b)
    (shorter : policy.heartbeatInterval < policy.leaseDuration)
    {schedule : List (Proc × TaskEvent)} {process : Proc} {event : TaskEvent}
    {system after : System Proc TaskWorker JobTable}
    (timely : (taskMachine policy stamp).Meets (fun _ => Timely policy)
      (schedule ++ [(process, event)]) (idleTasks workerIds))
    (ends : (taskMachine policy stamp).Meets (fun _ => EndsInTime policy)
      (schedule ++ [(process, event)]) (idleTasks workerIds))
    (reaches : (taskMachine policy stamp).run schedule (idleTasks workerIds) = some system)
    (acts : (taskMachine policy stamp).act process event system = some after)
    (takes : event.action.TakesJobs) :
    ∀ other task, (system.locals other).activity = .busy task → task.stage ≠ .failing →
      ∀ row ∈ system.shared.rows, row.jobId = task.jobId → row ∈ after.shared.rows := by
  obtain ⟨meets, here⟩ := meets_append (meets_and timely ends) reaches
  obtain ⟨timelyNow, endsNow⟩ := here.1
  have initially : AllHold policy stamp workerIds (idleTasks workerIds) :=
    ⟨fun _ => rfl, fun _ _ busy => Activity.noConfusion busy⟩
  have all : AllHold policy stamp workerIds system :=
    run_invariant (AllHold policy stamp workerIds) (fun _ _ _ _ held conditions acts =>
        allHold_step injective ordered shorter held conditions.1 conditions.2 acts)
      initially meets reaches
  intro other task busy executes _ present isJob
  obtain ⟨_, heldPresent, isHeld, holds⟩ := all.holds other task busy executes
  obtain rfl := Table.eq_of_key heldPresent present (isHeld.trans isJob.symm)
  obtain ⟨_, -, rfl⟩ := taskMachine_act.mp acts
  rw [System.move_shared]
  refine mem_tableAfter takes present (holds.imp id fun ⟨leased, flagged⟩ => ⟨leased, ?_⟩)
  exact unexpired_of_timely ordered shorter timelyNow endsNow busy executes flagged

namespace Reference

/-- Times in unary, which texts order as numbers. -/
def unary (time : Nat) : String := String.ofList (List.replicate time 'i')

lemma unary_ordered (a b : Nat) (before : unary a < unary b) : a < b := by
  rw [unary, unary, String.lt_iff_toList_lt, String.toList_ofList, String.toList_ofList] at before
  induction a generalizing b with
  | zero =>
    cases b with
    | zero => exact absurd before (List.not_lt_nil _)
    | succ b => exact Nat.succ_pos b
  | succ a ih =>
    cases b with
    | zero => exact absurd before (List.not_lt_nil _)
    | succ b =>
      rw [List.replicate_succ, List.replicate_succ, List.cons_lt_cons_iff] at before
      rcases before with never | ⟨-, rest⟩
      · exact absurd never (lt_irrefl _)
      · exact Nat.succ_lt_succ (ih b rest)

lemma taskIds_injective : Function.Injective taskIds := by
  rintro (_ | _) (_ | _) same
  · rfl
  · exact absurd same (by decide)
  · exact absurd same (by decide)
  · rfl

/-- The heartbeat renews the lease of the scan once. -/
def renewedOnce : List (Bool × TaskEvent) :=
  startedJob .scan ++ [(false, ⟨.wake, 11⟩), (false, ⟨.look true, 11⟩), (false, ⟨.renew true, 11⟩)]

theorem scan_kept_while_renewed : ∃ system after,
    (taskMachine timing unary).run renewedOnce (idleTasks taskIds) = some system ∧
    (taskMachine timing unary).act true ⟨.recover, 21⟩ system = some after ∧
    ∀ other task, (system.locals other).activity = .busy task → task.stage ≠ .failing →
      ∀ row ∈ system.shared.rows, row.jobId = task.jobId → row ∈ after.shared.rows := by
  refine ⟨_, _, rfl, rfl, ?_⟩
  refine @live_jobs_kept timing unary Bool _ taskIds taskIds_injective unary_ordered (by decide)
    renewedOnce true ⟨.recover, 21⟩ _ _ ?_ ?_ rfl rfl (.inl rfl)
  · iterate 7 refine meets_cons rfl ⟨rfl, ?_⟩ ?_; rotate_left
    · trivial
    all_goals rintro (_ | _) task ⟨⟩ _ _ <;> decide
  · iterate 7 refine meets_cons rfl ?_ ?_; rotate_left
    · trivial
    all_goals rintro (_ | _) _ ⟨⟩ _ _ <;> decide

/-- A client cancels the scan, the heartbeat sees it, renews once more and ends. -/
def heartbeatEnds : List (Bool × TaskEvent) :=
  startedJob .scan ++ [cancels, (false, ⟨.wake, 11⟩), (false, ⟨.look true, 11⟩),
    (false, ⟨.renew true, 11⟩), (false, ⟨.wake, 21⟩)]

/-- The scan goes on, and the other worker requeues it after its lease. -/
theorem canceled_scan_requeued : ∃ system after,
    (taskMachine timing unary).Meets (fun _ => Timely timing)
      (heartbeatEnds ++ [(true, ⟨.recover, 42⟩)]) (idleTasks taskIds) ∧
    (taskMachine timing unary).run heartbeatEnds (idleTasks taskIds) = some system ∧
    (taskMachine timing unary).act true ⟨.recover, 42⟩ system = some after ∧
    ∃ task, (system.locals false).activity = .busy task ∧ task.stage = .executing ∧
      ∃ row ∈ system.shared.rows, row.jobId = task.jobId ∧ row ∉ after.shared.rows ∧
        ∃ later ∈ after.shared.rows, later.jobId = task.jobId ∧ later.status = .queued := by
  refine ⟨_, _, ?_, rfl, rfl, _, rfl, rfl, by decide +kernel⟩
  iterate 9 refine meets_cons rfl ⟨rfl, ?_⟩ ?_; rotate_left
  · trivial
  all_goals rintro (_ | _) _ ⟨⟩ _ ended <;> first
      | exact absurd rfl ended
      | decide

end Reference

end Parqonaut.Store
