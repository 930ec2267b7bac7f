import Parqonaut.Orchestrator.Executor
import Parqonaut.Repair.LockRelease
import Parqonaut.Repair.VerifiedPublication

/-!
# Datasets with a remote output

The functions of `storage.rs` that a dataset task calls for an output in an object store. An
attempt reports success after a fresh publication, which has promoted its version, or by two short
cuts that look at the commit marker of the run and leave `CURRENT` as they find it.
-/

namespace Parqonaut.Orchestrator

open Effects Repair Rust Storage Fallible
open Program (ends_inr)
open Program (ends_done Ends)

variable {File Schema Batch Lock : Type}

/-! ## What a task calls -/

/-- Requests of a repair between storage locations. -/
abbrev StorageReq (File : Type) : Type := FsRequest File ⊕ RemoteRequest File

@[reducible] def StorageResp : StorageReq File → Type :=
  SumResp FsRequest.Answer RemoteRequest.Answer

def publicationError (error : PublicationError) : OrchestratorError := .storage error.display

/-- A call to the backend of the output. -/
def askOutput {α : Type} (prog : BackendM File α) :
    Fallible (StorageReq File) StorageResp OrchestratorError α :=
  inr (inr (mapErr publicationError prog))

def remoteOutputCommitted (output : DatasetLocation) (runId : String) :
    Fallible (StorageReq File) StorageResp OrchestratorError Bool :=
  match output with
  | .localDir _ => return false
  | .s3 _ => askOutput (isVersionCommitted output runId)

def remotePublicationState (serde : SerdeJson File) (output : DatasetLocation) (runId : String) :
    Fallible (StorageReq File) StorageResp OrchestratorError (Option PublicationState) :=
  match output with
  | .localDir _ => return none
  | .s3 _ => askOutput (observedState serde output runId)

variable [DecidableEq Schema]

/-- `execute_plan` of the backend of the source. A listing that goes beyond the bound of
the model gives no report. -/
def executePlan (tools : Toolkit File Schema Batch) (context : StorageContext File)
    (encode : ExecutionManifest → File) (executionId : String) (executor : RepairExecutor)
    (plan : RepairPlan) (output : DatasetLocation) (scan : ScanReport) (runId : String) :
    StorageRepairM File ExecutionReport := do
  match ← executeStorage tools context encode executor plan output scan runId executionId with
  | some report => return report
  | none => throw (.storage "listing of the source did not end")

/-- What a task calls, with the storage functions in their places. `base` has the locks,
scans and local repairs. -/
def storageOutside (tools : Toolkit File Schema Batch) (context : StorageContext File)
    (encode : ExecutionManifest → File) (executionId : String)
    (base : Outside (StorageReq File) StorageResp Lock) :
    Outside (StorageReq File) StorageResp Lock :=
  { base with
    parse := context.parse
    remoteOutputCommitted := remoteOutputCommitted
    remotePublicationState := remotePublicationState context.serde
    executePlan := fun executor plan _ output scan runId =>
      executePlan tools context encode executionId executor plan output scan runId }

/-! ## Commit marker -/

section

variable {s3 : S3Service File} {serde : SerdeJson File} {location : S3Location} {runId : String}
  {store after : Store File}

/-- The output has the commit marker of a run whose keys are accepted. -/
def Marked (location : S3Location) (runId : String) (store : Store File) : Prop :=
  Str.contains (PublicationPath.version runId .commit).relative ".." = false ∧
    store.Has (location.locate (.version runId .commit))

lemma wp_isVersionCommitted_marked :
    (isVersionCommitted (.s3 location) runId).run.wp s3.service (fun _ _ => True)
      (fun result after => after = store ∧ (result = .ok true → Marked location runId store))
      store := by
  apply wp_isVersionCommitted trivial
  · exact fun _ => ⟨rfl, nofun⟩
  · exact fun clean marked => ⟨rfl, fun _ => ⟨clean, marked⟩⟩
  · exact fun _ => ⟨rfl, nofun⟩

/-- The states with which the second short cut reports success. -/
def Settled (result : Except PublicationError (Option PublicationState)) : Prop :=
  result = .ok (some .current) ∨ result = .ok (some .committed)

/-- A state is observed as settled only behind the marker. -/
lemma wp_observedState_marked :
    (observedState serde (.s3 location) runId).run.wp s3.service (fun _ _ => True)
      (fun result after => after = store ∧ (Settled result → Marked location runId store))
      store := by
  have fails : ∀ error, ¬ Settled (.error error) := by
    rintro error (never | never) <;> cases never
  rw [observedState, wp_bind]
  apply wp_isVersionCommitted trivial
  · exact fun error => ⟨rfl, fun settled => absurd settled (fails error)⟩
  · intro clean marked
    dsimp only
    rw [if_pos rfl, wp_bind]
    apply wp_readCurrentVersion trivial
    intro current
    cases current with
    | error => exact ⟨rfl, fun _ => ⟨clean, marked⟩⟩
    | ok =>
      dsimp only
      split <;> exact Program.wp_done.mpr ⟨rfl, fun _ => ⟨clean, marked⟩⟩
  · intro _
    dsimp only
    rw [if_neg (by decide), PublicationPath.relative_state, wp_bind]
    apply wp_locateObject
    · exact fun error => ⟨rfl, fun settled => absurd settled (fails error)⟩
    · intro _
      dsimp only
      rw [Fallible.wp_attempt_bind]
      apply wp_readJsonObject trivial
      · intro _
        split
        · rename_i never
          cases never
        · refine Program.wp_done.mpr ⟨rfl, ?_⟩
          rintro (never | never) <;> cases never
        · exact Program.wp_done.mpr ⟨rfl, fun settled => absurd settled (fails _)⟩
      · intro _ _ _ _
        dsimp only
        split
        · refine Program.wp_done.mpr ⟨rfl, ?_⟩
          rintro (never | never) <;> cases never
        · rename_i early
          refine Program.wp_done.mpr ⟨rfl, ?_⟩
          rintro (settled | settled) <;>
          · rw [Option.some.inj (Except.ok.inj settled)] at early
            exact absurd (by decide) early

/-- With the marker in place the check finds it when the call does not fail. -/
lemma ends_committed (marked : Marked location runId store) :
    Ends s3.service (isVersionCommitted (.s3 location) runId).run store (.ok true)
      store := by
  obtain ⟨clean, present⟩ := marked
  obtain ⟨object, lookup⟩ := Store.has_iff.mp present
  rw [isVersionCommitted, PublicationPath.relative_commit, locateObject_relative _ clean, pure_bind]
  apply returns_request_bind.mpr
  exact ⟨.ok (s3.metadata _ object), store, .inl (serve_head_some lookup).symm, returns_value⟩

end

/-! ## Parts of an attempt -/

section

variable {Process Local Source : Type} {process : Service TaskRequest TaskRequest.Answer Process}
  {disk : Service (FsRequest File) FsRequest.Answer Local}
  {source : Service (Request File) Request.Answer Source} {s3 : S3Service File}

/-- The process, the local disk, the store of the source and the store of the output. -/
abbrev BatchState (Process Local Source File : Type) : Type :=
  Process × Local × Source × Store File

/-- Store of the output. -/
abbrev BatchState.output (state : BatchState Process Local Source File) : Store File :=
  state.2.2.2

/-- Services behind a dataset task. -/
def batchService (process : Service TaskRequest TaskRequest.Answer Process)
    (disk : Service (FsRequest File) FsRequest.Answer Local)
    (source : Service (Request File) Request.Answer Source) (s3 : S3Service File) :
    Service (TaskReq (StorageReq File)) (TaskResp StorageResp)
      (BatchState Process Local Source File) :=
  process.both (disk.both (source.both s3.service))

variable {state after : BatchState Process Local Source File}

/-- A request to the process leaves the rest alone. -/
lemma ends_ask {request : TaskRequest} {answer : request.Answer}
    (ends : Ends (batchService process disk source s3) (ask request) state answer after) :
    after.2 = state.2 := by
  obtain ⟨_, _, answers, rest⟩ := Program.ends_call.mp ends
  obtain ⟨_, rfl⟩ := ends_done.mp rest
  exact (Service.answers_inl.mp answers).2

variable {dataset : DatasetPlan} {attempts : Nat}

lemma ends_upsertRecord {datasetState : DatasetState}
    {sourceFingerprint : Option String} {errorClass : Option FailureClass}
    {errorMessage startedAt completedAt : Option String} {value : Unit}
    (ends : Ends (batchService process disk source s3)
      (upsertRecord dataset datasetState attempts sourceFingerprint errorClass errorMessage
        startedAt completedAt) state value after) :
    after.2 = state.2 := by
  rw [upsertRecord, Program.ends_bind] at ends
  obtain ⟨_, _, first, rest⟩ := ends
  obtain ⟨_, _, second, rest⟩ := Program.ends_bind.mp rest
  obtain ⟨_, rfl⟩ := ends_done.mp rest
  exact (ends_ask second).trans (ends_ask first)

lemma ends_recordSucceeded {started : String} {skipped : Bool} {outcome : DatasetExecutionOutcome}
    (ends : Ends (batchService process disk source s3)
      (recordSucceeded dataset attempts started skipped) state outcome after) :
    after.2 = state.2 ∧ outcome.state = .succeeded := by
  rw [recordSucceeded, Program.ends_bind] at ends
  obtain ⟨_, _, first, rest⟩ := ends
  obtain ⟨_, _, second, rest⟩ := Program.ends_bind.mp rest
  obtain ⟨rfl, rfl⟩ := ends_done.mp rest
  exact ⟨(ends_upsertRecord second).trans (ends_ask first), rfl⟩

/-- A call to the backend of the output does there what it does alone. -/
lemma ends_askOutput {α : Type} {prog : BackendM File α} {result : Except OrchestratorError α} :
    Ends (batchService process disk source s3) (tryOutside (askOutput prog)) state result after ↔
      (∃ raised, Ends s3.service prog.run state.output raised after.output ∧
        result = raised.mapError publicationError) ∧
      after.1 = state.1 ∧ after.2.1 = state.2.1 ∧ after.2.2.1 = state.2.2.1 := by
  rw [tryOutside, batchService, ends_inr]
  change (Ends _ (Program.inr (Program.inr _)) _ _ _ ∧ _) ↔ _
  rw [ends_inr, ends_inr, Fallible.ends_mapErr]
  tauto

variable {executor : RepairExecutor} {location : S3Location} {runId : String}

lemma executeRepair_remote {outside : Outside (StorageReq File) StorageResp Lock}
    {origin : DatasetLocation} :
    executeRepair outside executor dataset origin (.s3 location) runId = (do
      let scan ← callOutside repairFailure (outside.scan origin)
      let execution ← ExceptT.lift
        (tryOutside (outside.executePlan executor dataset.repairPlan origin (.s3 location) scan runId))
      return execution.mapError repairFailure) := by
  cases origin <;> rfl

variable {report : ExecutionReport}

/-- A repair that returns has promoted its version. -/
lemma executePlan_promotes {tools : Toolkit File Schema Batch} {context : StorageContext File}
    {encode : ExecutionManifest → File} {executionId : String}
    {plan : RepairPlan} {scan : ScanReport} {before final : Local × Source × Store File}
    (returns : Returns (disk.both (source.both s3.service))
      (executePlan tools context encode executionId executor plan (.s3 location) scan runId)
      before report final) :
    Names context.serde location runId final.2.2 := by
  rw [executePlan, returns_bind] at returns
  obtain ⟨found, _, executes, rest⟩ := returns
  cases found with
  | none => exact absurd rest not_returns_throw
  | some =>
    obtain ⟨-, rfl⟩ := returns_pure.mp rest
    rw [executeStorage, returns_bind] at executes
    obtain ⟨_, _, executes, rest⟩ := executes
    obtain ⟨same, rfl⟩ := returns_pure.mp rest
    rw [executeStorageRecorded, returns_bind] at executes
    obtain ⟨staged, _, _, executes⟩ := executes
    cases staged with
    | none =>
      obtain ⟨rfl, -⟩ := returns_pure.mp executes
      cases same
    | some =>
      obtain ⟨_, _, _, executes⟩ := executes.of_bind
      obtain ⟨_, _, publishes, executes⟩ := executes.of_bind
      obtain ⟨_, _, removes, rest⟩ := executes.of_bind
      obtain ⟨-, rfl⟩ := returns_pure.mp rest
      rw [publishStaged, returns_bind] at publishes
      obtain ⟨_, _, _, publishes⟩ := publishes
      obtain ⟨_, _, _, publishes⟩ := publishes.of_bind
      have promoted := publishWorkDir_promotes (returns_inr.mp (returns_inr.mp publishes).1).1
      have untouched := (returns_inl.mp removes).2
      rw [untouched]
      exact promoted

variable {tools : Toolkit File Schema Batch} {context : StorageContext File}
  {encode : ExecutionManifest → File} {executionId : String}
  {base : Outside (StorageReq File) StorageResp Lock} {repair : RepairExecutor}
  {dataset : DatasetPlan} {origin : DatasetLocation} {location : S3Location} {runId : String}
  {attempts : Nat} {started : String} {outcome : DatasetExecutionOutcome}

lemma storageOutside_committed :
    (storageOutside tools context encode executionId base).remoteOutputCommitted (.s3 location)
        runId =
      askOutput (isVersionCommitted (.s3 location) runId) := by
  simp [storageOutside, remoteOutputCommitted]

lemma storageOutside_state :
    (storageOutside tools context encode executionId base).remotePublicationState (.s3 location)
        runId =
      askOutput (observedState context.serde (.s3 location) runId) := by
  simp [storageOutside, remotePublicationState]

lemma parseLocation_storage {raw : String} :
    parseLocation (storageOutside tools context encode executionId base) raw =
      (context.parse raw).mapError fun error => ⟨.permanent, error.display⟩ := rfl

lemma executeDatasetOnce_eq (parsed : context.parse dataset.sourcePath = .ok origin)
    (output : context.parse dataset.outputPath = .ok (.s3 location)) :
    executeDatasetOnce (storageOutside tools context encode executionId base) repair dataset runId
        attempts started =
      ExceptT.lift (tryOutside (askOutput (isVersionCommitted (.s3 location) runId))) >>=
        fun committed => match committed with
          | .ok true => ExceptT.lift (recordSucceeded dataset attempts started true)
          | _ => executeUncommitted (storageOutside tools context encode executionId base) repair
              dataset origin (.s3 location) runId attempts started := by
  rw [executeDatasetOnce, parseLocation_storage, parseLocation_storage, parsed, output]
  dsimp only [Except.mapError]
  rewrite [storageOutside_committed]
  apply congrArg
  funext committed
  rcases committed with _ | _ | _ <;> rfl

lemma observedPublished_marked {published : Bool} (ends : Ends (batchService process disk source s3)
      (observedPublished (storageOutside tools context encode executionId base) (.s3 location)
        runId) state published after) :
    after.output = state.output ∧ (published = true → Marked location runId state.output) := by
  rw [observedPublished, storageOutside_state, Program.ends_bind] at ends
  obtain ⟨_, mid, observed, rest⟩ := ends
  obtain ⟨⟨raised, reads, rfl⟩, -⟩ := ends_askOutput.mp observed
  obtain ⟨unchanged, marked⟩ := reads.post wp_observedState_marked
  have answered : (published = true → Settled raised) ∧ after = mid := by
    clear observed reads unchanged marked
    rcases raised with _ | _ | reached
    · obtain ⟨rfl, rfl⟩ := ends_done.mp rest
      exact ⟨(Bool.noConfusion ·), rfl⟩
    · obtain ⟨rfl, rfl⟩ := ends_done.mp rest
      exact ⟨(Bool.noConfusion ·), rfl⟩
    · cases reached with
      | current =>
        obtain ⟨rfl, rfl⟩ := ends_done.mp rest
        exact ⟨fun _ => .inl rfl, rfl⟩
      | committed =>
        obtain ⟨rfl, rfl⟩ := ends_done.mp rest
        exact ⟨fun _ => .inr rfl, rfl⟩
      | _ =>
        obtain ⟨rfl, rfl⟩ := ends_done.mp rest
        exact ⟨(Bool.noConfusion ·), rfl⟩
  obtain ⟨settles, rfl⟩ := answered
  exact ⟨unchanged, fun isPublished => marked (settles isPublished)⟩

/-- The repair of an attempt, when its result is a report. -/
lemma repairDataset_promotes (returns : Returns (batchService process disk source s3)
      (repairDataset (storageOutside tools context encode executionId base) repair dataset origin
        (.s3 location) runId attempts started) state (.ok report) after) :
    Names context.serde location runId after.output := by
  rw [repairDataset, returns_bind] at returns
  obtain ⟨_, _, _, returns⟩ := returns
  obtain ⟨_, _, _, returns⟩ := returns.of_bind
  rw [executeRepair_remote] at returns
  obtain ⟨_, _, _, returns⟩ := returns.of_bind
  obtain ⟨execution, _, executes, rest⟩ := returns.of_bind
  obtain ⟨same, rfl⟩ := returns_pure.mp rest
  cases execution with
  | error => cases same
  | ok =>
    have plans := (ends_inr.mp (returns_lift.mp executes)).1
    exact executePlan_promotes plans

lemma executeUncommitted_promotes (promoted : Marked location runId state.output →
      Names context.serde location runId state.output)
    (returns : Returns (batchService process disk source s3)
      (executeUncommitted (storageOutside tools context encode executionId base) repair dataset
        origin (.s3 location) runId attempts started) state outcome after) :
    Names context.serde location runId after.output := by
  have remote : requiresStorageExecution origin (.s3 location) = true := by
    cases origin <;> rfl
  rw [executeUncommitted, acquireOutputLock, if_pos remote, pure_bind, returns_bind] at returns
  obtain ⟨published, _, observes, returns⟩ := returns
  obtain ⟨unchanged, marked⟩ := observedPublished_marked (returns_lift.mp observes)
  cases published with
  | true =>
    obtain ⟨_, _, records, returns⟩ := returns.of_bind
    obtain ⟨_, _, releases, rest⟩ := returns.of_bind
    obtain ⟨-, rfl⟩ := returns_pure.mp rest
    obtain ⟨-, rfl⟩ := ends_done.mp (returns_lift.mp releases)
    obtain ⟨same, -⟩ := ends_recordSucceeded (returns_lift.mp records)
    have kept : after.output = state.output := by
      rw [← unchanged, BatchState.output, same]
    rw [kept]
    exact promoted (marked rfl)
  | false =>
    obtain ⟨execution, _, executes, returns⟩ := returns_attempt_bind.mp returns
    obtain ⟨_, _, releases, rest⟩ := returns.of_bind
    obtain ⟨-, rfl⟩ := ends_done.mp (returns_lift.mp releases)
    rcases execution with _ | _ | _
    · exact absurd rest not_returns_throw
    · obtain ⟨_, _, _, rest⟩ := rest.of_bind
      obtain ⟨_, _, _, rest⟩ := rest.of_bind
      exact absurd rest not_returns_throw
    · obtain ⟨same, -⟩ := ends_recordSucceeded (returns_lift.mp rest)
      rw [BatchState.output, same]
      exact repairDataset_promotes executes

/-! ## Success means promoted -/

variable (process disk source s3 tools context encode executionId base repair dataset location
  runId attempts started state)

/-- The first short cut, when no call fails. -/
lemma returns_committed (parsed : context.parse dataset.sourcePath = .ok origin)
    (output : context.parse dataset.outputPath = .ok (.s3 location))
    (marked : Marked location runId state.output) :
    ∃ outcome after, Returns (batchService process disk source s3)
        (executeDatasetOnce (storageOutside tools context encode executionId base) repair dataset
          runId attempts started) state outcome after ∧
      outcome.state = .succeeded ∧ after.output = state.output := by
  have records := Program.ends_run (batchService process disk source s3)
    (recordSucceeded dataset attempts started true) state
  obtain ⟨same, succeeded⟩ := ends_recordSucceeded records
  have reads : Ends (batchService process disk source s3)
      (tryOutside (askOutput (isVersionCommitted (.s3 location) runId))) state (.ok true) state :=
    ends_askOutput.mpr ⟨⟨.ok true, ends_committed marked, rfl⟩, rfl, rfl, rfl⟩
  refine ⟨_, _, ?_, succeeded, congrArg (·.2.2) same⟩
  rw [executeDatasetOnce_eq parsed output, returns_bind]
  exact ⟨.ok true, state, returns_lift.mpr reads, returns_lift.mpr records⟩

/-- An attempt for an output in an object store reports success only with `CURRENT` naming the run,
exactly when the store did not have the run's commit marker without that pointer before. -/
theorem succeeded_names_run_iff (output : context.parse dataset.outputPath = .ok (.s3 location)) :
    (∀ outcome after, Returns (batchService process disk source s3)
        (executeDatasetOnce (storageOutside tools context encode executionId base) repair dataset
          runId attempts started) state outcome after →
      outcome.state = .succeeded → Names context.serde location runId after.output) ↔
    ((∃ origin, context.parse dataset.sourcePath = .ok origin) →
      Marked location runId state.output → Names context.serde location runId state.output) := by
  constructor
  · rintro promotes ⟨origin, parsed⟩ marked
    obtain ⟨outcome, after, returns, succeeded, same⟩ := returns_committed process disk source s3
      state tools context encode executionId base repair dataset location runId attempts started
      parsed output marked
    rw [← same]
    exact promotes outcome after returns succeeded
  · intro promoted _ _ returns _
    cases parsed : context.parse dataset.sourcePath with
    | error =>
      rw [executeDatasetOnce, parseLocation_storage, parsed] at returns
      exact absurd returns not_returns_throw
    | ok origin =>
      have promoted := promoted ⟨origin, parsed⟩
      rw [executeDatasetOnce_eq parsed output, returns_bind] at returns
      obtain ⟨_, _, checks, rest⟩ := returns
      obtain ⟨⟨raised, reads, rfl⟩, -⟩ := ends_askOutput.mp (returns_lift.mp checks)
      obtain ⟨unchanged, marked⟩ := reads.post wp_isVersionCommitted_marked
      rw [← unchanged] at promoted marked
      rcases raised with _ | _ | _
      · exact executeUncommitted_promotes promoted rest
      · exact executeUncommitted_promotes promoted rest
      · obtain ⟨same, -⟩ := ends_recordSucceeded (returns_lift.mp rest)
        rw [BatchState.output, same]
        exact promoted (marked rfl)

end

namespace Reference

open Repair.Reference Storage.Reference

def remoteDataset : DatasetPlan where
  datasetId := "sales"
  sourcePath := "/d"
  outputPath := "s3://b"
  repairPlan := planOf "a" []
  authorize := []

def remoteOutputContext : StorageContext Payload :=
  { remoteContext with
    parse := fun path => if path = "s3://b" then .ok (.s3 location) else .ok (.localDir ⟨path⟩) }

/-- A source that is read without a call. -/
def remoteBase : Outside (StorageReq Payload) StorageResp Unit where
  parse := remoteOutputContext.parse
  remoteOutputCommitted := fun _ _ => pure false
  remotePublicationState := fun _ _ => pure none
  acquireLock := fun _ _ => pure ()
  releaseLock := fun _ _ => pure ()
  sourceFingerprint := fun _ => pure remoteDataset.repairPlan.datasetFingerprint
  scan := fun _ => pure (scanOf ["a"])
  executePlan := fun _ _ _ _ _ _ => throw (.storage "")
  executeLocal := fun _ _ _ _ => throw (.join "")

def remoteAttempt : @DatasetM (StorageReq Payload) StorageResp DatasetExecutionOutcome :=
  executeDatasetOnce (storageOutside tools remoteOutputContext encodeManifest "x" remoteBase)
    verifying remoteDataset "v" 1 ""

def remoteServices : Service (TaskReq (StorageReq Payload)) (TaskResp StorageResp)
    (BatchState Shared (Disk Payload) (Store Payload) Payload) :=
  batchService taskService (Disk.service tools.created) s3.service s3

def remoteStart : BatchState Shared (Disk Payload) (Store Payload) Payload :=
  (shared, diskOf [("a", "xy")], empty, empty)

/-- The pointer is there and names the run. -/
def namesRun (state : BatchState Shared (Disk Payload) (Store Payload) Payload) : Bool :=
  (state.output.objects (location.locate .current)).any fun object =>
    object.data = .current ⟨"v"⟩

lemma names_iff (state : BatchState Shared (Disk Payload) (Store Payload) Payload) :
    Names serde location "v" state.output ↔ namesRun state = true := by
  rw [Names, namesRun, Option.any_eq_true]
  constructor
  · rintro ⟨object, lookup, decoded⟩
    refine ⟨object, lookup, decide_eq_true ?_⟩
    cases data : object.data <;> rw [data] at decoded <;> cases decoded
    rfl
  · rintro ⟨object, lookup, isPointer⟩
    refine ⟨object, lookup, ?_⟩
    rw [of_decide_eq_true isPointer]
    rfl

theorem first_attempt_names_run :
    remoteOutputContext.parse remoteDataset.outputPath = .ok (.s3 location) ∧
      ∀ outcome after, Returns remoteServices remoteAttempt remoteStart outcome after →
        outcome.state = .succeeded → Names serde location "v" after.output := by
  have unmarked : ¬ Marked location "v" empty := fun marked => Bool.noConfusion marked.2
  exact ⟨rfl, (succeeded_names_run_iff taskService (Disk.service tools.created) s3.service s3
    remoteStart tools remoteOutputContext encodeManifest "x" remoteBase verifying remoteDataset
    location "v" 1 "" rfl).mpr fun _ marked => absurd marked unmarked⟩

/-- The process dies when the version is committed and not yet promoted. The next attempt finds
the marker and reports success, without a pointer. -/
theorem retry_succeeds_without_current :
    ¬∀ served left, Interrupted remoteServices served remoteAttempt.run remoteStart left →
      ∀ outcome after, Returns remoteServices remoteAttempt left outcome after →
        outcome.state = .succeeded → Names serde location "v" after.output := by
  intro claim
  have dies : (remoteAttempt.run.interruptAt remoteServices 45 remoteStart).any (fun left =>
      (eval remoteServices remoteAttempt left).1.toOption.any fun outcome =>
        outcome.state = .succeeded && !namesRun (eval remoteServices remoteAttempt left).2)
      = true := by
    decide +kernel
  obtain ⟨left, interrupted, retried⟩ := (Option.any_eq_true _ _).mp dies
  obtain ⟨outcome, after, returns, unnamed⟩ :=
    @exists_returns_of_eval _ _ _ _ _ remoteServices left remoteAttempt
      (fun outcome after => outcome.state = .succeeded && !namesRun after) retried
  obtain ⟨succeeded, unnamed⟩ := (Bool.and_eq_true _ _).mp unnamed
  have names := claim 45 left (.of_interruptAt interrupted) outcome after returns
    (of_decide_eq_true succeeded)
  rw [(names_iff after).mp names] at unnamed
  cases unnamed

end Reference

end Parqonaut.Orchestrator
