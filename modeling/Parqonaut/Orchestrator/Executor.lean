import Parqonaut.Orchestrator.State

/-!
# Executing one dataset

`execute_dataset_once` and `execute_dataset_with_retries` of `executor/mod.rs`.

What a task shares with other tasks (journal, cancel flag, counter, clock) it reaches through
requests, each a step of its own. The locks, scans and repairs that it calls are programs of
another kind of requests; they enter as a record.
-/

namespace Parqonaut.Orchestrator

open Effects Repair Storage

/-! ## Requests -/

/-- What a task asks of the process it runs in. `attempt` has no effect; it marks a
call of `execute_dataset_once`. -/
inductive TaskRequest where
  | now
  | isCancelled
  | cancel
  | countCompleted
  | dataset (id : String)
  | upsert (record : DatasetRunRecord)
  | attempt (id : String)

@[reducible] def TaskRequest.Answer : TaskRequest → Type
  | .now => String
  | .isCancelled => Bool
  | .cancel => Unit
  | .countCompleted => Nat
  | .dataset _ => Except OrchestratorError (Option DatasetRunRecord)
  | .upsert _ => Except OrchestratorError Unit
  | .attempt _ => Unit

/-- Why a local repair did not return a report: the blocking task panicked, or the
repair failed. -/
inductive BlockingFailure where
  | join (message : String)
  | repair (error : RepairError)

/-- What a dataset task calls: locks, scans, repairs and the state of remote outputs. -/
structure Outside (Req : Type) (Resp : Req → Type) (Lock : Type) where
  parse : String → Except StorageError DatasetLocation
  remoteOutputCommitted (output : DatasetLocation) (runId : String) :
    Fallible Req Resp OrchestratorError Bool
  remotePublicationState (output : DatasetLocation) (runId : String) :
    Fallible Req Resp OrchestratorError (Option PublicationState)
  acquireLock (output : DatasetLocation) (runId : String) : Fallible Req Resp OrchestratorError Lock
  releaseLock (lock : Lock) (output : DatasetLocation) : Fallible Req Resp OrchestratorError Unit
  sourceFingerprint (source : DatasetLocation) : Fallible Req Resp RepairError DatasetFingerprint
  scan (source : DatasetLocation) : Fallible Req Resp RepairError ScanReport
  executePlan (executor : RepairExecutor) (plan : RepairPlan) (source output : DatasetLocation)
    (scan : ScanReport) (runId : String) : Fallible Req Resp RepairError ExecutionReport
  executeLocal (executor : RepairExecutor) (plan : RepairPlan) (output : String)
    (scan : ScanReport) : Fallible Req Resp BlockingFailure ExecutionReport

structure DatasetFailure where
  failureClass : FailureClass
  message : String

structure DatasetExecutionOutcome where
  datasetId : String
  state : DatasetState
  attempts : Nat
  errorClass : Option FailureClass
  errorMessage : Option String
  skipped : Bool

structure BatchExecutorConfig where
  maxRetries : Nat
  interruptAfterCompleted : Option Nat

def DEFAULT_MAX_RETRIES : Nat := 2

/-- Requests of a task: those to its process and those of what it calls. -/
abbrev TaskReq (Req : Type) : Type := TaskRequest ⊕ Req

@[reducible] def TaskResp {Req : Type} (Resp : Req → Type) : TaskReq Req → Type :=
  SumResp TaskRequest.Answer Resp

abbrev TaskM {Req : Type} (Resp : Req → Type) : Type → Type :=
  Program (TaskReq Req) (TaskResp Resp)

abbrev DatasetM {Req : Type} (Resp : Req → Type) : Type → Type :=
  Fallible (TaskReq Req) (TaskResp Resp) DatasetFailure

section

variable {Req Lock : Type} {Resp : Req → Type} (outside : Outside Req Resp Lock)
  (repair : RepairExecutor) (config : BatchExecutorConfig) (dataset : DatasetPlan)
  (source output : DatasetLocation) (runId : String) (priorState : Option DatasetState)
  (attempts : Nat) (started : String)

/-- A request to the process. -/
def ask (request : TaskRequest) : TaskM Resp request.Answer :=
  @Program.request (TaskReq Req) (TaskResp Resp) (.inl request)

/-- A call whose error the caller handles. -/
def tryOutside {ε α : Type} (prog : Fallible Req Resp ε α) : TaskM Resp (Except ε α) :=
  prog.run.inr

/-- A call whose error ends the attempt. -/
def callOutside {ε α : Type} (convert : ε → DatasetFailure) (prog : Fallible Req Resp ε α) :
    DatasetM Resp α :=
  ExceptT.mk (tryOutside (Fallible.mapErr convert prog))

/-! ## Journal records -/

/-- Write the record of a dataset. A journal error is only logged. -/
def upsertRecord (state : DatasetState) (attempts : Nat) (sourceFingerprint : Option String)
    (errorClass : Option FailureClass) (errorMessage : Option String)
    (startedAt completedAt : Option String) : TaskM Resp Unit := do
  let now ← ask .now
  let _ ← ask (.upsert {
    datasetId := dataset.datasetId
    outputPath := dataset.outputPath
    repairPlanId := dataset.repairPlan.planId
    policyFingerprint := dataset.repairPlan.policyFingerprint
    state := state
    attempts := attempts
    sourceFingerprint := sourceFingerprint
    outputFingerprint := none
    errorClass := errorClass
    errorMessage := errorMessage
    startedAt := startedAt
    updatedAt := now
    completedAt := completedAt })
  return ()

/-- The record and the outcome of a dataset that succeeded. -/
def recordSucceeded (skipped : Bool) : TaskM Resp DatasetExecutionOutcome := do
  let completed ← ask .now
  upsertRecord dataset .succeeded attempts
    (some dataset.repairPlan.datasetFingerprint.digest) none none (some started) (some completed)
  return ⟨dataset.datasetId, .succeeded, attempts, none, none, skipped⟩

/-! ## One attempt -/

def requiresStorageExecution : DatasetLocation → DatasetLocation → Bool
  | .localDir _, .localDir _ => false
  | _, _ => true

def parseLocation (raw : String) : Except DatasetFailure DatasetLocation :=
  (outside.parse raw).mapError fun error => ⟨.permanent, error.display⟩

def repairFailure (error : RepairError) : DatasetFailure :=
  ⟨classifyRepairError error, error.display⟩

/-- `verify_source_fingerprint`: the digest of the source as it is now. -/
def verifyFingerprint (dataset : DatasetPlan) : DatasetM Resp String := do
  let current ← callOutside repairFailure (outside.sourceFingerprint source)
  match dataset.repairPlan.datasetFingerprint.verifyAgainst current with
  | .ok () => return current.digest
  | .error error => throw ⟨.staleSource, error.display⟩

/-- Lock of a local output; publication to a remote output takes its own. -/
def acquireOutputLock : DatasetM Resp (Option Lock) :=
  if requiresStorageExecution source output then return none
  else do
    let lock ← callOutside (fun error => ⟨.permanent, error.display⟩)
      (outside.acquireLock output runId)
    return some lock

/-- Release the lock, or drop it at the end of its scope. -/
def releaseOutputLock (lock : Option Lock) (output : DatasetLocation) : TaskM Resp Unit :=
  match lock with
  | none => return ()
  | some lock => do
      let _ ← tryOutside (outside.releaseLock lock output)
      return ()

/-- The version of the run is already published, as far as its state tells. -/
def observedPublished : TaskM Resp Bool :=
  match output with
  | .localDir _ => return false
  | .s3 _ => do
      match ← tryOutside (outside.remotePublicationState output runId) with
      | .ok (some .current) => return true
      | .ok (some .committed) => return true
      | _ => return false

def repairExecutorFor (repair : RepairExecutor) : RepairExecutor :=
  { repair with authorization := ⟨dataset.authorize⟩ }

/-- Scan the source and repair it to the output. The inner result is what the journal records; an
outer error leaves the attempt before that. -/
def executeRepair (executor : RepairExecutor) (dataset : DatasetPlan)
    (source output : DatasetLocation) (runId : String) :
    DatasetM Resp (Except DatasetFailure ExecutionReport) :=
  match source, output with
  | .localDir _, .localDir target => do
      let scan ← callOutside repairFailure (outside.scan source)
      match ← ExceptT.lift
          (tryOutside (outside.executeLocal executor dataset.repairPlan target.path scan)) with
      | .ok report => return .ok report
      | .error (.repair error) => return .error (repairFailure error)
      | .error (.join message) => throw ⟨.permanent, "dataset task join error: " ++ message⟩
  | _, _ => do
      let scan ← callOutside repairFailure (outside.scan source)
      let execution ← ExceptT.lift
        (tryOutside (outside.executePlan executor dataset.repairPlan source output scan runId))
      return execution.mapError repairFailure

/-- Record how the repair went. -/
def recordExecution : Except DatasetFailure ExecutionReport → DatasetM Resp DatasetExecutionOutcome
  | .ok _ => ExceptT.lift (recordSucceeded dataset attempts started false)
  | .error failure => do
      let completed ← ExceptT.lift (ask .now)
      ExceptT.lift (upsertRecord dataset (failureState failure.failureClass) attempts none
        (some failure.failureClass) (some failure.message) (some started) (some completed))
      throw failure

/-- Part of an attempt under the output lock. -/
def repairDataset : DatasetM Resp (Except DatasetFailure ExecutionReport) := do
  let currentFp ← verifyFingerprint outside source dataset
  ExceptT.lift (upsertRecord dataset .running attempts (some currentFp) none none (some started)
    none)
  executeRepair outside (repairExecutorFor dataset repair) dataset source output runId

/-- An attempt for an output whose version is not known to be committed. -/
def executeUncommitted : DatasetM Resp DatasetExecutionOutcome := do
  let lock ← acquireOutputLock outside source output runId
  if ← ExceptT.lift (observedPublished outside output runId) then
    let outcome ← ExceptT.lift (recordSucceeded dataset attempts started true)
    ExceptT.lift (releaseOutputLock outside lock output)
    return outcome
  else
    let execution ← Fallible.attempt
      (repairDataset outside repair dataset source output runId attempts started)
    ExceptT.lift (releaseOutputLock outside lock output)
    match execution with
    | .ok execution => recordExecution dataset attempts started execution
    | .error failure => throw failure

def executeDatasetOnce : DatasetM Resp DatasetExecutionOutcome :=
  match parseLocation outside dataset.sourcePath, parseLocation outside dataset.outputPath with
  | .error failure, _ => throw failure
  | .ok _, .error failure => throw failure
  | .ok source, .ok output => do
      match ← ExceptT.lift (tryOutside (outside.remoteOutputCommitted output runId)) with
      | .ok true => ExceptT.lift (recordSucceeded dataset attempts started true)
      | _ => executeUncommitted outside repair dataset source output runId attempts started

/-! ## Retries -/

/-- The record and the outcome of a dataset whose attempts are over. -/
def recordFinalFailure (failure : DatasetFailure) : TaskM Resp DatasetExecutionOutcome := do
  let completed ← ask .now
  upsertRecord dataset (failureState failure.failureClass) attempts none
    (some failure.failureClass) (some failure.message) (some started) (some completed)
  return ⟨dataset.datasetId, failureState failure.failureClass, attempts,
    some failure.failureClass, some failure.message, false⟩

def recordCancelled : TaskM Resp DatasetExecutionOutcome := do
  let completed ← ask .now
  upsertRecord dataset .cancelled attempts none (some .cancelled) (some "batch run cancelled")
    none (some completed)
  return ⟨dataset.datasetId, .cancelled, attempts, some .cancelled, some "batch run cancelled",
    false⟩

/-- Count a dataset that succeeded, and interrupt the run when it is asked for. -/
def countSucceeded (outcome : DatasetExecutionOutcome) : TaskM Resp Unit :=
  if outcome.state = .succeeded then do
    let completed ← ask .countCompleted
    if config.interruptAfterCompleted = some completed then ask .cancel else return ()
  else return ()

def maxAttempts : Nat :=
  min (config.maxRetries + 1) (2 ^ 32 - 1)

/-- One attempt and what follows it; `again` is the rest of the loop after a failure
that is retried. -/
def attemptDataset
    (again : (attempts : Nat) → (started : String) → DatasetFailure → TaskM Resp DatasetExecutionOutcome)
    (attempts : Nat) (started : String) : TaskM Resp DatasetExecutionOutcome := do
  ask (.attempt dataset.datasetId)
  match ← (executeDatasetOnce outside repair dataset runId attempts started).run with
  | .ok outcome =>
    countSucceeded config outcome
    return outcome
  | .error failure =>
    if failure.failureClass = .recoverable ∧ attempts < maxAttempts config then
      upsertRecord dataset .failedRecoverable attempts none (some failure.failureClass)
        (some failure.message) none none
      again attempts started failure
    else
      recordFinalFailure dataset attempts started failure

/-- One round of the loop of `execute_dataset_with_retries`. -/
def retryRound
    (again : (attempts : Nat) → (started : String) → DatasetFailure → TaskM Resp DatasetExecutionOutcome)
    (before : Nat) : TaskM Resp DatasetExecutionOutcome := do
  if ← ask .isCancelled then
    recordCancelled dataset before
  else
    let attempts := before + 1
    let started ← ask .now
    if priorState ≠ some .succeeded then
      upsertRecord dataset .planningValidated attempts none none none (some started) none
    attemptDataset outside repair config dataset runId again attempts started

/-- Loop of `execute_dataset_with_retries`. It goes on only below `max_attempts`, so `fuel` is
what is left of them. -/
def retryLoop : (fuel attempts : Nat) → TaskM Resp DatasetExecutionOutcome
  | 0 => retryRound outside repair config dataset runId priorState (recordFinalFailure dataset)
  | fuel + 1 => retryRound outside repair config dataset runId priorState fun attempts _ _ =>
    retryLoop fuel attempts

def executeDatasetWithRetries : TaskM Resp DatasetExecutionOutcome := do
  let record ← ask (.dataset dataset.datasetId)
  let attempts := (record.toOption.join.map (·.attempts)).getD 0
  retryLoop outside repair config dataset runId priorState (maxAttempts config - attempts) attempts

/-! ## Task of a dataset -/

def skippedOutcome (id : String) (prior : Option DatasetState) : DatasetExecutionOutcome where
  datasetId := id
  state := prior.getD .cancelled
  attempts := 0
  errorClass := if prior = none then some .cancelled else none
  errorMessage := if prior = none then some "batch run cancelled before start" else none
  skipped := true

/-- Closure that the scheduler runs for a dataset. -/
def datasetTask (dataset : DatasetPlan) (priorState : Option DatasetState) :
    TaskM Resp DatasetExecutionOutcome := do
  if ← ask .isCancelled then
    return skippedOutcome dataset.datasetId priorState
  else
    executeDatasetWithRetries outside repair config dataset runId priorState

/-!
# Running and resuming a batch

`BatchExecutor::run`, the scheduler of `scheduler/mod.rs`, and `resume_batch` and
`execute_with_journal` of `run.rs`, as a transition system. The main task reads the journal,
prepares the dataset tasks and spawns at most `max_jobs` of them; each request of a spawned task is
a transition.

A process can stop between any two transitions. The cancel flag can be set at any time and is
never reset.
-/

open Sql

/-! ## What the tasks share -/

/-- The journal, the flag and the counter of the process. `calls` records the calls of
`execute_dataset_once` by dataset id, over all processes; `panicked` records a panic. -/
structure Shared where
  journal : Journal
  cancelled : Bool
  completed : Nat
  calls : List String
  panicked : Bool

/-- How the process serves its tasks. The clock may answer anything, and a journal
access may fail without effect. -/
def taskService : Service TaskRequest TaskRequest.Answer Shared where
  serve
    | .now, shared => ("", shared)
    | .isCancelled, shared => (shared.cancelled, shared)
    | .cancel, shared => ((), { shared with cancelled := true })
    | .countCompleted, shared =>
      (shared.completed + 1, { shared with completed := shared.completed + 1 })
    | .dataset id, shared => (.ok (shared.journal.dataset id), shared)
    | .upsert record, shared =>
      (.ok (), { shared with journal := shared.journal.upsertDataset record })
    | .attempt id, shared => ((), { shared with calls := shared.calls ++ [id] })
  faulty
    | .now, _ => True
    | .dataset _, answer => ∃ error, answer = .error error
    | .upsert _, answer => ∃ error, answer = .error error
    | .isCancelled, _ => False
    | .cancel, _ => False
    | .countCompleted, _ => False
    | .attempt _, _ => False

/-! ## Processes -/

inductive ExecutionMode where
  | fresh
  | resume
  deriving DecidableEq

/-- A prepared task: the dataset and its state in the journal when the run was read. -/
structure PreparedTask where
  dataset : DatasetPlan
  priorState : Option DatasetState

variable {Req Lock State : Type} {Resp : Req → Type}

/-- A spawned task and what is left of it. -/
structure SpawnedTask (Resp : Req → Type) where
  task : PreparedTask
  rest : TaskM Resp DatasetExecutionOutcome

/-- State of `run_bounded_cancellable`. `holding` is a task that was taken off the
list and is about to be spawned. -/
structure Pool (Resp : Req → Type) where
  pending : List PreparedTask
  holding : Option PreparedTask
  active : List (SpawnedTask Resp)
  results : List DatasetExecutionOutcome

/-- Where a process stands. -/
inductive Phase (Resp : Req → Type) where
  | stopped
  | recovering (todo : List DatasetRunRecord)
  | preparing (mode : ExecutionMode) (existing : List DatasetRunRecord) (todo : List DatasetPlan)
      (tasks : List PreparedTask)
  | scheduling (existing : List DatasetRunRecord) (pool : Pool Resp)
  | closing (outcomes : List DatasetExecutionOutcome)

/-- A process, what its tasks share, and the world outside. -/
structure Config (Resp : Req → Type) (State : Type) where
  phase : Phase Resp
  shared : Shared
  outside : State

/-- What a run is started with. -/
structure BatchSetup (Req : Type) (Resp : Req → Type) (Lock : Type) where
  outside : Outside Req Resp Lock
  repair : RepairExecutor
  config : BatchExecutorConfig
  planDigest : BatchPlan → String
  plan : BatchPlan
  jobs : Option Nat
  runId : String

namespace BatchSetup

variable (setup : BatchSetup Req Resp Lock)

/-- Bound on running tasks. -/
def maxJobs : Nat := max 1 (setup.jobs.getD setup.plan.maxConcurrency)

/-- A new identity for the run. -/
def identity : RunIdentity where
  runId := setup.runId
  batchPlanId := setup.plan.batchPlanId
  configFingerprint := setup.plan.configFingerprint
  outputRoot := setup.plan.outputRoot
  planDigest := setup.planDigest setup.plan
  completedAt := none
  cancelledAt := none

/-- Checks at the start of `BatchExecutor::run`. -/
def validates : Bool :=
  setup.plan.validateVersion.isOk && (validateBatchPlan setup.outside.parse setup.plan).isOk

/-- Checks of `resume_batch` on the journal. -/
def accepts (journal : Journal) : Bool :=
  (assertPlanMatchesIdentity setup.planDigest setup.plan journal.identity).isOk &&
    (assertDatasetsMatchPlan setup.plan journal.listDatasets).isOk

/-- Program of a prepared task. -/
def program (task : PreparedTask) : TaskM Resp DatasetExecutionOutcome :=
  datasetTask setup.outside setup.repair setup.config setup.runId task.dataset task.priorState

end BatchSetup

/-- Outcome of a dataset that no task of this run executed. -/
def leftOutcome (existing : List DatasetRunRecord) (id : String) :
    Option DatasetExecutionOutcome :=
  match findRecord existing id with
  | none => none
  | some record =>
    if record.state = .succeeded then
      some ⟨id, .succeeded, record.attempts, none, none, true⟩
    else if record.state.isTerminal then
      some ⟨id, record.state, record.attempts, record.errorClass, record.errorMessage, true⟩
    else none

/-- Add the outcomes of the datasets that the run has left alone. -/
def fillOutcomes (existing : List DatasetRunRecord) :
    List DatasetPlan → List DatasetExecutionOutcome → List DatasetExecutionOutcome
  | [], outcomes => outcomes
  | ds :: rest, outcomes =>
    if outcomes.any fun outcome => outcome.datasetId = ds.datasetId then
      fillOutcomes existing rest outcomes
    else
      fillOutcomes existing rest (outcomes ++ (leftOutcome existing ds.datasetId).toList)

/-- Preparation of one dataset in the loop of `BatchExecutor::run`. -/
def prepareDataset (mode : ExecutionMode) (existing : List DatasetRunRecord) (ds : DatasetPlan)
    (tasks : List PreparedTask) : List PreparedTask :=
  if mode = .resume ∧ skippedOnResume existing ds.datasetId then tasks
  else tasks ++ [⟨ds, (findRecord existing ds.datasetId).map (·.state)⟩]

/-- The scheduler goes on to wait for a task. -/
def awaits (maxJobs : Nat) (cancelled : Bool) (pool : Pool Resp) : Bool :=
  pool.holding.isNone &&
    (decide (maxJobs ≤ pool.active.length) || pool.pending.isEmpty || cancelled)

/-- The transitions of a process. -/
inductive RunStep (setup : BatchSetup Req Resp Lock) (service : Service Req Resp State) :
    Config Resp State → Config Resp State → Prop where
  /-- `recover_journal_states` comes to a record. -/
  | recover {record todo shared outside now} :
      RunStep setup service ⟨.recovering (record :: todo), shared, outside⟩ ⟨.recovering todo,
          if needsRecovery record then
            { shared with journal := shared.journal.upsertDataset (recoveredRecord record now) }
          else shared, outside⟩
  /-- `BatchExecutor::run` reads the journal. -/
  | readJournal {shared outside} (validates : setup.validates = true) :
      RunStep setup service ⟨.recovering [], shared, outside⟩
        ⟨.preparing .resume shared.journal.listDatasets setup.plan.datasets [], shared, outside⟩
  | prepare {mode existing ds todo tasks shared outside} (live : shared.cancelled = false) :
      RunStep setup service ⟨.preparing mode existing (ds :: todo) tasks, shared, outside⟩
        ⟨.preparing mode existing todo (prepareDataset mode existing ds tasks), shared, outside⟩
  /-- The preparation is over, or a cancellation ends it. -/
  | schedule {mode existing todo tasks shared outside}
      (ended : todo = [] ∨ shared.cancelled = true) :
      RunStep setup service ⟨.preparing mode existing todo tasks, shared, outside⟩
        ⟨.scheduling existing ⟨tasks, none, [], []⟩, shared, outside⟩
  /-- The scheduler takes the next task; a cancellation after this does not stop it. -/
  | take {existing task pending active results shared outside} (live : shared.cancelled = false)
      (room : active.length < setup.maxJobs) :
      RunStep setup service
        ⟨.scheduling existing ⟨task :: pending, none, active, results⟩, shared, outside⟩
        ⟨.scheduling existing ⟨pending, some task, active, results⟩, shared, outside⟩
  | spawn {existing task pending active results shared outside} : RunStep setup service
        ⟨.scheduling existing ⟨pending, some task, active, results⟩, shared, outside⟩
        ⟨.scheduling existing ⟨pending, none, active ++ [⟨task, setup.program task⟩], results⟩,
          shared, outside⟩
  /-- A spawned task makes its next request. -/
  | serve {existing pending holding before after results task request next shared outside answer
        shared' outside'}
      (answers : (taskService.both service).Answers request (shared, outside) answer
        (shared', outside')) :
      RunStep setup service ⟨.scheduling existing
          ⟨pending, holding, before ++ ⟨task, .call request next⟩ :: after, results⟩,
          shared, outside⟩
        ⟨.scheduling existing ⟨pending, holding, before ++ ⟨task, next answer⟩ :: after, results⟩,
          shared', outside'⟩
  | join {existing pending holding before after results task outcome shared outside}
      (waits : awaits setup.maxJobs shared.cancelled
        ⟨pending, holding, before ++ ⟨task, .done outcome⟩ :: after, results⟩ = true) :
      RunStep setup service ⟨.scheduling existing
          ⟨pending, holding, before ++ ⟨task, .done outcome⟩ :: after, results⟩, shared, outside⟩
        ⟨.scheduling existing ⟨pending, holding, before ++ after, results ++ [outcome]⟩, shared,
          outside⟩
  /-- A task panics, and the scheduler logs it. -/
  | panic {existing pending holding before after results task rest shared outside} :
      RunStep setup service
        ⟨.scheduling existing ⟨pending, holding, before ++ ⟨task, rest⟩ :: after, results⟩,
          shared, outside⟩
        ⟨.scheduling existing ⟨pending, holding, before ++ after, results⟩,
          { shared with panicked := true }, outside⟩
  | finish {existing pending results shared outside}
      (ended : pending = [] ∨ shared.cancelled = true) :
      RunStep setup service ⟨.scheduling existing ⟨pending, none, [], results⟩, shared, outside⟩
        ⟨.closing (fillOutcomes existing setup.plan.datasets results), shared, outside⟩
  | cancel {phase shared outside} : RunStep setup service ⟨phase, shared, outside⟩
        ⟨phase, { shared with cancelled := true }, outside⟩

/-- The tasks that stay when one leaves the pool. -/
lemma sublist_removed {α : Type} {front back : List α} {removed : α} :
    (front ++ back).Sublist (front ++ removed :: back) :=
  (List.sublist_cons_self removed back).append_left front

lemma mem_replaced {α : Type} {front back : List α} {old new other : α}
    (mem : other ∈ front ++ new :: back) :
    other = new ∨ other ∈ front ++ old :: back := by
  rcases List.mem_append.mp mem with early | late
  · exact .inr (List.mem_append_left _ early)
  · rcases List.mem_cons.mp late with rfl | late
    · exact .inl rfl
    · exact .inr (List.mem_append_right _ (List.mem_cons_of_mem _ late))

/-- A spawned task that runs to its end while nothing else moves. -/
lemma RunStep.runTask {setup : BatchSetup Req Resp Lock} {service : Service Req Resp State}
    {existing : List DatasetRunRecord} {pending : List PreparedTask}
    {holding : Option PreparedTask} {after : List (SpawnedTask Resp)}
    {results : List DatasetExecutionOutcome} {task : PreparedTask}
    (before : List (SpawnedTask Resp)) (prog : TaskM Resp DatasetExecutionOutcome)
    (shared : Shared) (outside : State) :
    let ended := prog.run (taskService.both service) (shared, outside)
    Relation.ReflTransGen (RunStep setup service)
      ⟨.scheduling existing ⟨pending, holding, before ++ ⟨task, prog⟩ :: after, results⟩,
        shared, outside⟩
      ⟨.scheduling existing ⟨pending, holding, before ++ ⟨task, .done ended.1⟩ :: after, results⟩,
        ended.2.1, ended.2.2⟩ := by
  induction prog generalizing shared outside with
  | done => exact .refl
  | call request _ ih =>
    exact .head (.serve (Service.answers_served _ request (shared, outside))) (ih _ _ _)

/-- End of `execute_with_journal`. -/
def markRun (plan : BatchPlan) (now : String) (shared : Shared) : Shared :=
  if shared.cancelled then { shared with journal := shared.journal.markRunCancelled now }
  else if runIsComplete plan shared.journal.listDatasets then
    { shared with journal := shared.journal.markRunCompleted now }
  else shared

/-- `resume_batch` for a run whose datasets are all finished. -/
def markCompleted (now : String) (shared : Shared) : Shared :=
  if shared.journal.identity.completedAt = none then
    { shared with journal := shared.journal.markRunCompleted now }
  else shared

section

variable {plan : BatchPlan} {now id : String} {shared : Shared}

lemma markRun_dataset :
    (markRun plan now shared).journal.dataset id = shared.journal.dataset id := by
  unfold markRun
  split
  · rfl
  · split <;> rfl

/-- Marking a run changes the journal only. -/
lemma markRun_eq : ∃ journal, markRun plan now shared = { shared with journal := journal } := by
  unfold markRun
  split
  · exact ⟨_, rfl⟩
  · split <;> exact ⟨_, rfl⟩

lemma markCompleted_dataset :
    (markCompleted now shared).journal.dataset id = shared.journal.dataset id := by
  unfold markCompleted
  split <;> rfl

lemma markCompleted_eq :
    ∃ journal, markCompleted now shared = { shared with journal := journal } := by
  unfold markCompleted
  split <;> exact ⟨_, rfl⟩

end

/-- What a new process starts with. Its cancel flag may already be set. -/
def newProcess (cancelled : Bool) (shared : Shared) : Shared :=
  { shared with cancelled := cancelled, completed := 0, panicked := false }

/-- The transitions of a run over the processes that work on it. -/
inductive BatchStep (setup : BatchSetup Req Resp Lock) (service : Service Req Resp State) :
    Config Resp State → Config Resp State → Prop where
  | run {before after} (steps : RunStep setup service before after) :
      BatchStep setup service before after
  /-- The process is killed, or an error ends it. -/
  | stop {phase shared outside} :
      BatchStep setup service ⟨phase, shared, outside⟩ ⟨.stopped, shared, outside⟩
  | mark {outcomes shared outside now} :
      BatchStep setup service ⟨.closing outcomes, shared, outside⟩
        ⟨.stopped, markRun setup.plan now shared, outside⟩
  | resumeComplete {shared outside now} (accepted : setup.accepts shared.journal = true)
      (complete : runIsComplete setup.plan shared.journal.listDatasets = true) :
      BatchStep setup service ⟨.stopped, shared, outside⟩
        ⟨.stopped, markCompleted now shared, outside⟩
  | resume {shared outside cancelled} (accepted : setup.accepts shared.journal = true)
      (incomplete : runIsComplete setup.plan shared.journal.listDatasets = false) :
      BatchStep setup service ⟨.stopped, shared, outside⟩
        ⟨.recovering shared.journal.listDatasets, newProcess cancelled shared, outside⟩

/-- Start of a fresh run: the journal has just been created. -/
def freshRun (setup : BatchSetup Req Resp Lock) (cancelled : Bool) (outside : State) :
    Config Resp State where
  phase := .preparing .fresh [] setup.plan.datasets []
  shared := ⟨⟨setup.identity, Table.empty⟩, cancelled, 0, [], false⟩
  outside := outside

/-- The configurations of a run and its resumes. -/
def BatchReaches (setup : BatchSetup Req Resp Lock) (service : Service Req Resp State)
    (config : Config Resp State) : Prop :=
  ∃ cancelled outside,
    Relation.ReflTransGen (BatchStep setup service) (freshRun setup cancelled outside) config

/-- A call of `resume_batch` that runs to its end, from one shared state to another. -/
inductive Resumes (setup : BatchSetup Req Resp Lock) (service : Service Req Resp State) :
    (dryRun : Bool) → Shared × State → Shared × State → Prop where
  | dryRun {shared outside cancelled} (accepted : setup.accepts shared.journal = true)
      (validates : setup.validates = true) :
      Resumes setup service true (shared, outside) (newProcess cancelled shared, outside)
  | complete {shared outside cancelled now} (accepted : setup.accepts shared.journal = true)
      (complete : runIsComplete setup.plan shared.journal.listDatasets = true) :
      Resumes setup service false (shared, outside)
        (markCompleted now (newProcess cancelled shared), outside)
  | execute {shared outside cancelled outcomes shared' outside' now}
      (accepted : setup.accepts shared.journal = true)
      (incomplete : runIsComplete setup.plan shared.journal.listDatasets = false)
      (steps : Relation.ReflTransGen (RunStep setup service)
        ⟨.recovering shared.journal.listDatasets, newProcess cancelled shared, outside⟩
        ⟨.closing outcomes, shared', outside'⟩) :
      Resumes setup service false (shared, outside) (markRun setup.plan now shared', outside')

/-!
# The lock of a local output

`DatasetLock` of `lock.rs`: a file beside the output with the id of the run. A call is modelled by
the contents of the file around each step (`none` without a file), any of which a crash may leave,
and by its answer.
-/

open Rust List

namespace DatasetLock

def lockPathFor (output : String) : String :=
  output ++ ".parqonaut.lock"

/-- Contents of a new lock file while the id of the run is written: the write may stop
anywhere. -/
def written (runId : String) : List String :=
  (runId ++ "\n").toList.inits.map String.ofList

variable (output runId : String)

/-- The first argument counts the calls that may follow: none if `retried`. -/
def acquireInner : Nat → Option String → List (Option String) × Except OrchestratorError Unit
  | _, none => (none :: (written runId).map some, .ok ())
  | retries, some text =>
    let locked := ([some text], .error (.lockHeld ("output `" ++ output ++
      "` is locked (existing lockfile `" ++ lockPathFor output ++ "`)")))
    match retries with
    | 0 => locked
    | retries + 1 =>
      if Str.trim text = runId then
        -- the file of the same run is removed
        let (files, result) := acquireInner retries none
        (some text :: files, result)
      else locked

def acquire : Option String → List (Option String) × Except OrchestratorError Unit :=
  acquireInner output runId 1

/-- What crashes of a run, in the middle of a call or after it, leave when no one else uses the
output. -/
inductive LeftBehind : Option String → Prop
  | start : LeftBehind none
  | crash {before after : Option String} : LeftBehind before →
      after ∈ (acquire output runId before).1 → LeftBehind after

variable {output runId} {file : Option String} {text : String}

lemma acquire_ok_iff :
    (acquire output runId (some text)).2 = .ok () ↔ Str.trim text = runId := by
  by_cases own : Str.trim text = runId <;> simp [acquire, acquireInner, own]

/-- A file that crashes leave has some of what a call writes. -/
lemma LeftBehind.text_mem_written (left : LeftBehind output runId file) :
    ∀ text ∈ file, text ∈ written runId := by
  induction left with
  | start => simp
  | @crash before _ _ passed ih =>
    rintro _ rfl
    cases before with
    | none => simpa [acquire, acquireInner] using passed
    | some old =>
      by_cases own : Str.trim old = runId
      · simp [acquire, acquireInner, own] at passed
        exact passed.elim (fun same => same ▸ ih _ rfl) id
      · simp [acquire, acquireInner, own] at passed
        exact passed ▸ ih _ rfl

/-- The id is read back just where all of it was written, and has no blanks around it. -/
lemma trim_eq_iff (mem : text ∈ written runId) :
    Str.trim text = runId ↔ Str.trim runId = runId ∧ (text = runId ∨ text = runId ++ "\n") := by
  constructor
  · intro own
    have starts : text.toList <+: runId.toList ∨ text = runId ++ "\n" := by
      obtain ⟨_, isInit, rfl⟩ := mem_map.mp mem
      simpa [← String.toList_inj] using isInit
    rcases starts with within | rfl
    · have whole : runId.toList.length ≤ text.toList.length := by
        conv_lhs => rw [← own]
        exact Str.length_trim_le
      have same := String.toList_inj.mp (within.eq_of_length_le whole)
      exact ⟨same ▸ own, .inl same⟩
    · exact ⟨Str.trim_append_newline.symm.trans own, .inr rfl⟩
  · rintro ⟨clean, rfl | rfl⟩
    · exact clean
    · exact Str.trim_append_newline.trans clean

/-- A run takes its lock again after a crash just where there is no file, or its whole id is in the
file, without blanks around it. -/
theorem reacquire_ok_iff (left : LeftBehind output runId file) :
    (acquire output runId file).2 = .ok () ↔ file = none ∨
      Str.trim runId = runId ∧ (file = some runId ∨ file = some (runId ++ "\n")) := by
  cases file with
  | none => simp [acquire, acquireInner]
  | some text => simp [acquire_ok_iff, trim_eq_iff (left.text_mem_written text rfl)]

theorem reacquire_after_write : LeftBehind "o" "r" (some "r\n") ∧
    (acquire "o" "r" (some "r\n")).2 = .ok () := by
  have left : LeftBehind "o" "r" (some "r\n") := .crash .start (by decide)
  exact ⟨left, (reacquire_ok_iff left).mpr (.inr (by decide))⟩

/-- A crash between the creation of the file and the write locks the run out. -/
theorem empty_lock_refused : LeftBehind "o" "r" (some "") ∧
    (acquire "o" "r" (some "")).2 =
      .error (.lockHeld "output `o` is locked (existing lockfile `o.parqonaut.lock`)") :=
  ⟨.crash .start (by decide), rfl⟩

end DatasetLock

end

/-!
## A batch of one local dataset

A setup in which everything a task calls succeeds at once, and the first steps of its run.
-/

namespace Reference

/-- No requests are made outside the process. -/
@[reducible] def NoAnswer : Empty → Type := fun request => request.elim

def service : Service Empty NoAnswer Unit where
  serve := fun request => request.elim
  faulty := fun request => request.elim

def fingerprint : DatasetFingerprint := ⟨1, "/source", [], "digest"⟩

def report : ExecutionReport := ⟨"execution", "plan", [], [], "/staging", "/output", "/manifest", true⟩

def outside : Outside Empty NoAnswer Unit where
  parse := fun path => .ok (.localDir ⟨path⟩)
  remoteOutputCommitted := fun _ _ => pure false
  remotePublicationState := fun _ _ => pure none
  acquireLock := fun _ _ => pure ()
  releaseLock := fun _ _ => pure ()
  sourceFingerprint := fun _ => pure fingerprint
  scan := fun _ => pure ⟨[], []⟩
  executePlan := fun _ _ _ _ _ _ => pure report
  executeLocal := fun _ _ _ _ => pure report

def dataset : DatasetPlan where
  datasetId := "sales"
  sourcePath := "/source"
  outputPath := "/output"
  repairPlan := ⟨1, "plan", "/source", fingerprint, "policy", .standard, []⟩
  authorize := []

def plan : BatchPlan := ⟨1, "batch", "config", 1, "/output", [dataset]⟩

def setup : BatchSetup Empty NoAnswer Unit where
  outside := outside
  repair := ⟨⟨[]⟩, true⟩
  config := ⟨DEFAULT_MAX_RETRIES, none⟩
  planDigest := fun _ => "plan-digest"
  plan := plan
  jobs := none
  runId := "run-1"

def task : PreparedTask := ⟨dataset, none⟩

/-- Shared state at the start of the run. -/
def shared : Shared := (freshRun setup false ()).shared

/-- The fresh run up to the start of its task. -/
lemma spawns : Relation.ReflTransGen (RunStep setup service) (freshRun setup false ())
    ⟨.scheduling [] ⟨[], none, [⟨task, setup.program task⟩], []⟩, shared, ()⟩ :=
  .head (.prepare rfl) (.head (.schedule (.inl rfl)) (.head (.take rfl (by decide))
    (.single .spawn)))

/-- Shared state after the task has run to its end. -/
def afterTask : Shared :=
  ((setup.program task).run (taskService.both service) (shared, ())).2.1

def outcome : DatasetExecutionOutcome :=
  ((setup.program task).run (taskService.both service) (shared, ())).1

lemma runs : Relation.ReflTransGen (RunStep setup service) (freshRun setup false ())
    ⟨.scheduling [] ⟨[], none, [⟨task, .done outcome⟩], []⟩, afterTask, ()⟩ :=
  spawns.trans (RunStep.runTask [] (setup.program task) shared ())

lemma succeeds : ∃ record, afterTask.journal.dataset "sales" = some record ∧
    record.state = .succeeded := by
  have found : (afterTask.journal.dataset "sales").any (·.state = .succeeded) = true := by
    decide +kernel
  obtain ⟨record, isFound, succeeded⟩ := (Option.any_eq_true _ _).mp found
  exact ⟨record, isFound, of_decide_eq_true succeeded⟩

end Reference

end Parqonaut.Orchestrator
