import Parqonaut.Effects.Interleaving
import Parqonaut.Store.Jobs

/-!
# The tasks of a job worker

`worker.rs`: a worker recovers stale jobs, claims one, and runs it in a task while a heartbeat task
renews its lease. Whoever reads the cancel column of the running job sets a flag that both share;
the job task tests it before and after its work, except for scans.

Every statement, test of the flag and end of the work is one step, and so is a statement that the
store rejects. `stamp` is the text of a time, as `to_rfc3339` writes it.
-/

namespace Parqonaut.Store

open Effects Sql JobTable Option

/-! ## Tasks -/

/-- Lease recovery policy. Durations are in ticks of the clock. -/
structure WorkerPolicy extends JobRecoveryPolicy where
  leaseDuration : Nat
  heartbeatInterval : Nat

/-- Where the job task stands. After `failing` it only reports the failure. -/
inductive TaskStage where
  | claimed
  | started
  | executing
  | executed
  | succeeding
  | canceling
  | failing
  deriving DecidableEq

/-- Where the heartbeat task stands. -/
inductive Heartbeat where
  | sleeping
  | looking
  | renewing
  | ended
  deriving DecidableEq

/-- A claimed job with its two tasks. `renewedAt` is the time from which its lease counts. -/
structure JobTask where
  jobId : String
  kind : JobKind
  stage : TaskStage
  cancelled : Bool
  heartbeat : Heartbeat
  renewedAt : Nat
  deriving DecidableEq

inductive Activity where
  | idle
  | busy (task : JobTask)
  | stopped
  deriving DecidableEq

/-- A worker and the id it writes into the rows it claims. -/
structure TaskWorker where
  workerId : String
  activity : Activity

def TaskWorker.task (worker : TaskWorker) : Option JobTask :=
  match worker.activity with
  | .busy task => some task
  | .idle | .stopped => none

/-! ## Events -/

/-- What a process does next. A client submits and cancels jobs. -/
inductive TaskAction where
  | submit (submission : JobSubmission)
  | requestCancel (jobId : String) (read : Option JobStatus)
  | recover
  | claim (startedAt : String)
  | start (succeeds : Bool)
  | test
  | finish (succeeds : Bool)
  | completeSuccess (runId resultRefJson : Option String) (succeeds : Bool)
  | completeCanceled (succeeds : Bool)
  | completeFailure (failureCode failureMessage : String) (succeeds : Bool)
  | wake
  | look (succeeds : Bool)
  | renew (succeeds : Bool)
  | crash
  deriving DecidableEq

/-- The action does not concern the task of the process. -/
def TaskAction.ofClient : TaskAction → Bool
  | .submit _ | .requestCancel .. => true
  | _ => false

structure TaskEvent where
  action : TaskAction
  time : Nat

/-- `job_cancel_requested`. -/
def JobTable.jobCancelRequested (table : JobTable) (jobId : String) : Bool :=
  table.rows.any fun row => isJobIn jobId .running row && row.cancelRequested

/-- `renew_scan_job_lease` finds the job running under the worker. -/
def JobTable.holdsLease (table : JobTable) (jobId workerId : String) : Bool :=
  0 < table.affected fun row => isJobIn jobId .running row && row.workerId = some workerId

namespace JobTask

/-- Task of a job that was just claimed. -/
def new (row : ScanJobRow) (now : Nat) : JobTask :=
  ⟨row.jobId, row.jobKind, .claimed, false, .sleeping, now⟩

/-- The work ended with an error: the heartbeat is aborted before the failure is reported. -/
def fail (task : JobTask) : JobTask := { task with stage := .failing, heartbeat := .ended }

/-- Stage after a test of the flag. -/
def tested (task : JobTask) (next : TaskStage) : JobTask :=
  { task with stage := if task.cancelled then .canceling else next }

/-- Activity after a complete statement, which fails if the job is not running. -/
def completed (task : JobTask) (table : JobTable) (succeeds : Bool) : Activity :=
  if succeeds && table.affected (isJobIn task.jobId .running) ≠ 0 then .idle else .busy task.fail

/-- What an event does to a busy worker. -/
def advance (task : JobTask) (workerId : String) (table : JobTable) (now : Nat) :
    TaskAction → Option Activity
  | .start succeeds =>
    if task.stage = .claimed then
      if succeeds then some (.busy { task with
        cancelled := task.cancelled || table.jobCancelRequested task.jobId
        stage := if task.kind = .scan then .executing else .started })
      else some (.busy task.fail)
    else none
  | .test =>
    if task.stage = .started then some (.busy (task.tested .executing))
    else if task.stage = .executed then some (.busy (task.tested .succeeding))
    else none
  | .finish succeeds =>
    if task.stage = .executing then
      if succeeds then some (.busy { task with
        stage := if task.kind = .scan then .succeeding else .executed })
      else some (.busy task.fail)
    else none
  | .completeSuccess _ _ succeeds =>
    if task.stage = .succeeding then some (task.completed table succeeds) else none
  | .completeCanceled succeeds =>
    if task.stage = .canceling then some (task.completed table succeeds) else none
  | .completeFailure .. => if task.stage = .failing then some .idle else none
  | .wake =>
    if task.heartbeat = .sleeping then
      some (.busy { task with heartbeat := if task.cancelled then .ended else .looking })
    else none
  | .look succeeds =>
    if task.heartbeat = .looking then some (.busy { task with
      cancelled := task.cancelled || (succeeds && table.jobCancelRequested task.jobId)
      heartbeat := .renewing })
    else none
  | .renew succeeds =>
    if task.heartbeat = .renewing then
      if succeeds && table.holdsLease task.jobId workerId then
        some (.busy { task with heartbeat := .sleeping, renewedAt := now })
      else some (.busy { task with heartbeat := .ended })
    else none
  | .submit _ | .requestCancel .. | .recover | .claim _ | .crash => none

end JobTask

section

variable (policy : WorkerPolicy) (stamp : Nat → String)

/-- Activity of a process after an event. -/
def TaskWorker.advance (worker : TaskWorker) (table : JobTable) (event : TaskEvent) :
    Option Activity :=
  match event.action, worker.activity with
  | .submit _, activity | .requestCancel .., activity => some activity
  | .recover, .idle => some .idle
  | .claim _, .idle => some (match oldestQueued table with
      | some row => .busy (.new row event.time)
      | none => .idle)
  | .crash, _ => some .stopped
  | action, .busy task => task.advance worker.workerId table event.time action
  | _, _ => none

/-- Statement that an event runs, if the store accepts it. -/
def TaskWorker.statement (worker : TaskWorker) (event : TaskEvent) : Option JobStatement :=
  let now := stamp event.time
  let leasedUntil := stamp (event.time + policy.leaseDuration)
  match event.action with
  | .submit submission => some (.insert submission now)
  | .requestCancel jobId read => some (.requestCancel jobId read now)
  | .recover => some (.recoverStale now)
  | .claim startedAt => some (.claim worker.workerId startedAt now leasedUntil)
  | .completeSuccess runId resultRefJson true => worker.task.map fun task =>
    .completeSuccess task.jobId now runId resultRefJson
  | .completeCanceled true => worker.task.map fun task => .completeCanceled task.jobId now
  | .completeFailure failureCode failureMessage true => worker.task.map fun task =>
    .completeFailure task.jobId now failureCode failureMessage
  | .renew true => worker.task.map fun task => .renew task.jobId worker.workerId now leasedUntil
  | _ => none

/-- Table after the statement of an event. -/
def TaskWorker.tableAfter (worker : TaskWorker) (event : TaskEvent) (table : JobTable) : JobTable :=
  match worker.statement policy stamp event with
  | some statement => statement.execute policy.toJobRecoveryPolicy table
  | none => table

/-- Workers and clients of one store. -/
def taskMachine : Machine TaskEvent TaskWorker JobTable where
  step event worker table := (worker.advance table event).map fun activity =>
    (⟨worker.workerId, activity⟩, worker.tableAfter policy stamp event table)

variable {Proc : Type} [DecidableEq Proc]

/-- Processes at the start, over a table without jobs. -/
def idleTasks (workerIds : Proc → String) : System Proc TaskWorker JobTable where
  locals := fun process => ⟨workerIds process, .idle⟩
  shared := Table.empty

end

/-! ## What a step can do -/

/-- What an event can do to the task of a busy worker that stays busy. -/
inductive TaskMoves (workerId : String) (table : JobTable) (now : Nat) :
    TaskAction → JobTask → JobTask → Prop where
  | start {task} (claimed : task.stage = .claimed) :
      TaskMoves workerId table now (.start true) task { task with
        cancelled := task.cancelled || table.jobCancelRequested task.jobId
        stage := if task.kind = .scan then .executing else .started }
  | begins {task} (started : task.stage = .started) :
      TaskMoves workerId table now .test task (task.tested .executing)
  | finish {task} (executing : task.stage = .executing) :
      TaskMoves workerId table now (.finish true) task { task with
        stage := if task.kind = .scan then .succeeding else .executed }
  | decides {task} (executed : task.stage = .executed) :
      TaskMoves workerId table now .test task (task.tested .succeeding)
  | fails {action task} : TaskMoves workerId table now action task task.fail
  | wake {task} (sleeping : task.heartbeat = .sleeping) : TaskMoves workerId table now .wake task
        { task with heartbeat := if task.cancelled then .ended else .looking }
  | look {task succeeds} (looking : task.heartbeat = .looking) :
      TaskMoves workerId table now (.look succeeds) task { task with
        cancelled := task.cancelled || (succeeds && table.jobCancelRequested task.jobId)
        heartbeat := .renewing }
  | renew {task} (renewing : task.heartbeat = .renewing)
      (holds : table.holdsLease task.jobId workerId = true) :
      TaskMoves workerId table now (.renew true) task
        { task with heartbeat := .sleeping, renewedAt := now }
  | lapse {task succeeds} (renewing : task.heartbeat = .renewing)
      (lost : (succeeds && table.holdsLease task.jobId workerId) = false) :
      TaskMoves workerId table now (.renew succeeds) task { task with heartbeat := .ended }

section

variable {policy : WorkerPolicy} {stamp : Nat → String} {Proc : Type} [DecidableEq Proc]
  {worker : TaskWorker} {table : JobTable} {event : TaskEvent} {task next : JobTask}
  {workerId : String} {now : Nat} {action : TaskAction}
  {system after : System Proc TaskWorker JobTable} {process : Proc}

lemma completed_eq_busy {succeeds : Bool} (busy : task.completed table succeeds = .busy next) :
    next = task.fail := by
  rw [JobTask.completed] at busy
  split at busy
  · cases busy
  · cases busy
    rfl

lemma advance_moves (advances : task.advance workerId table now action = some (.busy next)) :
    TaskMoves workerId table now action task next := by
  cases action with
  | submit | requestCancel | recover | claim | crash => cases advances
  | start succeeds =>
    obtain ⟨claimed, rest⟩ := ite_none_right_eq_some.mp advances
    cases succeeds <;> cases rest
    · exact .fails
    · exact .start claimed
  | test =>
    rw [JobTask.advance] at advances
    split at advances
    · rename_i started
      cases advances
      exact .begins started
    · obtain ⟨executed, rest⟩ := ite_none_right_eq_some.mp advances
      cases rest
      exact .decides executed
  | finish succeeds =>
    obtain ⟨executing, rest⟩ := ite_none_right_eq_some.mp advances
    cases succeeds <;> cases rest
    · exact .fails
    · exact .finish executing
  | completeSuccess | completeCanceled =>
    obtain ⟨-, rest⟩ := ite_none_right_eq_some.mp advances
    rw [completed_eq_busy (Option.some.inj rest)]
    exact .fails
  | completeFailure =>
    obtain ⟨-, rest⟩ := ite_none_right_eq_some.mp advances
    cases rest
  | wake =>
    obtain ⟨sleeping, rest⟩ := ite_none_right_eq_some.mp advances
    cases rest
    exact .wake sleeping
  | look =>
    obtain ⟨looking, rest⟩ := ite_none_right_eq_some.mp advances
    cases rest
    exact .look looking
  | renew =>
    obtain ⟨renewing, rest⟩ := ite_none_right_eq_some.mp advances
    split at rest
    · rename_i holds
      cases rest
      rw [Bool.and_eq_true] at holds
      rw [holds.1]
      exact .renew renewing holds.2
    · rename_i lost
      cases rest
      exact .lapse renewing (Bool.eq_false_iff.mpr lost)

lemma TaskMoves.jobId_eq (moves : TaskMoves workerId table now action task next) :
    next.jobId = task.jobId := by
  cases moves <;> rfl

lemma TaskMoves.kind_eq (moves : TaskMoves workerId table now action task next) :
    next.kind = task.kind := by
  cases moves <;> rfl

/-- A worker becomes busy by a claim, and otherwise goes on with its task. -/
lemma busy_of_advance (advances : worker.advance table event = some (.busy next)) :
    (∃ startedAt row, event.action = .claim startedAt ∧ worker.activity = .idle ∧
        oldestQueued table = some row ∧ next = .new row event.time) ∨
      (∃ task, worker.activity = .busy task ∧ (event.action.ofClient = true ∧ next = task ∨
          TaskMoves worker.workerId table event.time event.action task next)) := by
  obtain ⟨_, _⟩ := worker
  obtain ⟨_, _⟩ := event
  rw [TaskWorker.advance] at advances
  split at advances
  · rename_i submits
    cases advances
    exact .inr ⟨next, rfl, .inl ⟨by rw [submits]; rfl, rfl⟩⟩
  · rename_i cancels
    cases advances
    exact .inr ⟨next, rfl, .inl ⟨by rw [cancels]; rfl, rfl⟩⟩
  · cases advances
  · rename_i startedAt isClaim isIdle
    split at advances
    · rename_i row oldest
      cases advances
      exact .inl ⟨startedAt, row, isClaim, isIdle, oldest, rfl⟩
    · cases advances
  · cases advances
  · rename_i task isBusy _ _ _
    exact .inr ⟨task, isBusy, .inr (advance_moves advances)⟩
  · cases advances

/-- What the moves of a statement do to the rows, the statement of an event does. -/
lemma tableAfter_tracks {relation : ScanJobRow → ScanJobRow → Prop}
    (reflexive : ∀ row, relation row row)
    (transitive : ∀ {first second third}, relation first second → relation second third →
      relation first third)
    (covers : ∀ statement row later, worker.statement policy stamp event = some statement →
      RowMoves policy.toJobRecoveryPolicy statement row later → relation row later) :
    Table.Tracks relation table (worker.tableAfter policy stamp event table) := by
  rw [TaskWorker.tableAfter]
  cases isStatement : worker.statement policy stamp event with
  | none => exact Table.Tracks.refl reflexive
  | some statement =>
    exact execute_moves.tracks reflexive transitive fun row later =>
      covers statement row later isStatement

lemma taskMachine_act : (taskMachine policy stamp).act process event system = some after ↔
    ∃ activity, (system.locals process).advance system.shared event = some activity ∧
      after = system.move process (⟨(system.locals process).workerId, activity⟩,
        (system.locals process).tableAfter policy stamp event system.shared) := by
  rw [Machine.act_eq_some]
  constructor
  · rintro ⟨_, steps, rfl⟩
    obtain ⟨activity, advances, rfl⟩ := map_eq_some_iff.mp steps
    exact ⟨activity, advances, rfl⟩
  · rintro ⟨activity, advances, rfl⟩
    exact ⟨_, map_eq_some_iff.mpr ⟨activity, advances, rfl⟩, rfl⟩

/-- What the statements of a worker say about it. -/
lemma statement_eq_some {statement : JobStatement}
    (isStatement : worker.statement policy stamp event = some statement) :
    match statement with
    | .recoverStale text => text = stamp event.time
    | .renew _ workerId _ _ => workerId = worker.workerId ∧ event.action = .renew true
    | .completeSuccess jobId _ runId resultRefJson =>
      event.action = .completeSuccess runId resultRefJson true ∧
        ∃ task, worker.activity = .busy task ∧ task.jobId = jobId
    | _ => True := by
  obtain ⟨_, activity⟩ := worker
  obtain ⟨action, _⟩ := event
  cases action with
  | recover =>
    cases isStatement
    rfl
  | renew succeeds =>
    cases succeeds <;> cases activity <;> cases isStatement
    exact ⟨rfl, rfl⟩
  | completeSuccess _ _ succeeds =>
    cases succeeds <;> cases activity <;> cases isStatement
    exact ⟨rfl, _, rfl, rfl⟩
  | completeCanceled succeeds | completeFailure failureCode failureMessage succeeds =>
    cases succeeds <;> cases activity <;> cases isStatement
    trivial
  | _ => cases isStatement <;> trivial

end

/-! ## Two processes -/

namespace Reference

def timing : WorkerPolicy := ⟨Reference.policy, 30, 10⟩

def taskIds : Bool → String
  | false => "worker-1"
  | true => "worker-2"

/-- The second process submits a job of the given kind, and the first one claims and starts it. -/
def startedJob (kind : JobKind) : List (Bool × TaskEvent) :=
  [(true, ⟨.submit { submission with kind := kind }, 0⟩), (false, ⟨.claim "1", 1⟩),
    (false, ⟨.start true, 2⟩)]

/-- The client cancels the job. -/
def cancels : Bool × TaskEvent := (true, ⟨.requestCancel "job" (some .running), 3⟩)

end Reference

end Parqonaut.Store
