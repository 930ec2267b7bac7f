import Parqonaut.Repair.Operations
import Parqonaut.Repair.Planning
import Parqonaut.Sql.Table
import Parqonaut.Storage.BucketUri

/-!
# States of a dataset in a batch run

`DatasetState` of `state.rs`, the failure classes of `error.rs`, and how the executor
maps repair errors to classes and classes to states.
-/

namespace Parqonaut.Orchestrator

open Repair

inductive DatasetState where
  | pending
  | planningValidated
  | running
  | repairComplete
  | verifying
  | succeeded
  | blocked
  | failedRecoverable
  | failedPermanent
  | cancelled
  | staleSource
  | verificationFailed
  deriving DecidableEq

namespace DatasetState

def isTerminal : DatasetState → Bool
  | .succeeded | .blocked | .failedPermanent | .cancelled | .verificationFailed
  | .staleSource => true
  | .pending | .planningValidated | .running | .repairComplete | .verifying
  | .failedRecoverable => false

def isRunnable : DatasetState → Bool
  | .pending | .failedRecoverable => true
  | _ => false

/-- Conservative recovery for datasets left `running` after a crash. -/
def recoverAfterCrash : DatasetState → DatasetState
  | .running | .repairComplete | .verifying | .planningValidated => .failedRecoverable
  | other => other

/-- Derived debug form. -/
def debug : DatasetState → String
  | .pending => "Pending"
  | .planningValidated => "PlanningValidated"
  | .running => "Running"
  | .repairComplete => "RepairComplete"
  | .verifying => "Verifying"
  | .succeeded => "Succeeded"
  | .blocked => "Blocked"
  | .failedRecoverable => "FailedRecoverable"
  | .failedPermanent => "FailedPermanent"
  | .cancelled => "Cancelled"
  | .staleSource => "StaleSource"
  | .verificationFailed => "VerificationFailed"

/-- Recovery touches no terminal state and makes none. -/
theorem isTerminal_recoverAfterCrash (state : DatasetState) :
    state.recoverAfterCrash.isTerminal = state.isTerminal := by
  cases state <;> rfl

end DatasetState

inductive FailureClass where
  | recoverable
  | permanent
  | blocked
  | staleSource
  | verificationFailed
  | cancelled
  deriving DecidableEq

def classifyRepairError : RepairError → FailureClass
  | .datasetChanged .. => .staleSource
  | .reviewRequiredNotAuthorized _ | .destructiveNotAllowed _ => .blocked
  | .verificationInvariantFailed .. => .verificationFailed
  | .partialExecution _ | .io _ | .transformFailed _ | .storage _ | .publication _ => .recoverable
  | .outputExists _ | .sourceDestinationOverlap _ | .unsupportedOperation ..
  | .preconditionFailed .. | .datasetUnreadable _ | .scanFailed _ | .invalidPlan _
  | .unsupportedPlanVersion .. | .json _ => .permanent

def failureState : FailureClass → DatasetState
  | .recoverable => .failedRecoverable
  | .permanent => .failedPermanent
  | .blocked => .blocked
  | .staleSource => .staleSource
  | .verificationFailed => .verificationFailed
  | .cancelled => .cancelled

theorem failureState_ne_succeeded (failure : FailureClass) : failureState failure ≠ .succeeded := by
  cases failure <;> decide

/-!
# Batch plans and the run journal

The plan of `plan.rs` with the overlap check of `overlap.rs`, the journal of `journal/mod.rs`, and
what `run.rs` and `auth.rs` check before a resume. The digest of a plan and the parser of
locations are parameters. What no decision reads is left out.
-/

open Sql Storage

inductive OrchestratorError where
  | invalidConfig (message : String)
  | unsupportedConfigVersion (found supported : Nat)
  | unsupportedPlanVersion (found supported : Nat)
  | duplicateDatasetId (id : String)
  | pathOverlap (message : String)
  | lockHeld (message : String)
  | journal (message : String)
  | io (message : String)
  | planIdentityMismatch (field expected found : String)
  | storage (message : String)

def OrchestratorError.display : OrchestratorError → String
  | .invalidConfig message => "batch config invalid: " ++ message
  | .unsupportedConfigVersion found supported =>
    "unsupported batch config schema version " ++ toString found ++ " (supported " ++
      toString supported ++ ")"
  | .unsupportedPlanVersion found supported =>
    "unsupported batch plan schema version " ++ toString found ++ " (supported " ++
      toString supported ++ ")"
  | .duplicateDatasetId id => "duplicate dataset id: " ++ id
  | .pathOverlap message => "path overlap detected: " ++ message
  | .lockHeld message => "dataset lock held: " ++ message
  | .journal message => "journal error: " ++ message
  | .io message => "io error: " ++ message
  | .planIdentityMismatch field expected found =>
    "batch plan identity mismatch: " ++ field ++ " expected `" ++ expected ++ "` found `" ++
      found ++ "`"
  | .storage message => "storage error: " ++ message

/-! ## Plans -/

structure DatasetPlan where
  datasetId : String
  sourcePath : String
  outputPath : String
  repairPlan : RepairPlan
  authorize : List String

structure BatchPlan where
  schemaVersion : Nat
  batchPlanId : String
  configFingerprint : String
  maxConcurrency : Nat
  outputRoot : String
  datasets : List DatasetPlan

def BATCH_PLAN_SCHEMA_VERSION : Nat := 1

namespace BatchPlan

def validateVersion (plan : BatchPlan) : Except OrchestratorError Unit :=
  if plan.schemaVersion ≠ BATCH_PLAN_SCHEMA_VERSION then
    .error (.unsupportedPlanVersion plan.schemaVersion BATCH_PLAN_SCHEMA_VERSION)
  else
    match plan.datasets.find? fun ds => ds.repairPlan.schemaVersion ≠ PLAN_SCHEMA_VERSION with
    | some ds => .error (.unsupportedPlanVersion ds.repairPlan.schemaVersion PLAN_SCHEMA_VERSION)
    | none => .ok ()

end BatchPlan

/-- Source and output locations for one dataset in a batch run. -/
structure BatchPathSpec where
  datasetId : String
  source : DatasetLocation
  output : DatasetLocation

def datasetLocations (parse : String → Except StorageError DatasetLocation) (plan : BatchPlan) :
    Except OrchestratorError (List BatchPathSpec) :=
  plan.datasets.mapM fun ds => do
    let source ← (parse ds.sourcePath).mapError fun error => .invalidConfig error.display
    let output ← (parse ds.outputPath).mapError fun error => .invalidConfig error.display
    return ⟨ds.datasetId, source, output⟩

def crossOverlapDetail (left right : BatchPathSpec) : Option String :=
  let pairs := [("source", left.source, "source", right.source),
    ("source", left.source, "output", right.output),
    ("output", left.output, "source", right.source),
    ("output", left.output, "output", right.output)]
  (pairs.find? fun (_, leftPath, _, rightPath) => locationsOverlap leftPath rightPath).map
    fun (leftKind, leftPath, rightKind, rightPath) =>
      "datasets `" ++ left.datasetId ++ "` and `" ++ right.datasetId ++ "`: " ++ leftKind ++
        " `" ++ leftPath.displayUri ++ "` overlaps " ++ rightKind ++ " `" ++
        rightPath.displayUri ++ "`"

/-- First overlap between two different datasets. -/
def firstCrossOverlap : List BatchPathSpec → Option String
  | [] => none
  | left :: rest => (rest.findSome? (crossOverlapDetail left)).or (firstCrossOverlap rest)

/-- Reject batch plans whose dataset source/output locations would collide. -/
def validateBatchOverlap (specs : List BatchPathSpec) : Except OrchestratorError Unit :=
  match specs.find? fun spec => locationsOverlap spec.source spec.output with
  | some spec => .error (.pathOverlap ("dataset `" ++ spec.datasetId ++ "`: source `" ++
      spec.source.displayUri ++ "` overlaps output `" ++ spec.output.displayUri ++ "`"))
  | none =>
    match firstCrossOverlap specs with
    | some detail => .error (.pathOverlap detail)
    | none => .ok ()

def validateBatchPlan (parse : String → Except StorageError DatasetLocation) (plan : BatchPlan) :
    Except OrchestratorError Unit := do
  let specs ← datasetLocations parse plan
  validateBatchOverlap specs

/-! ## Records -/

structure RunIdentity where
  runId : String
  batchPlanId : String
  configFingerprint : String
  outputRoot : String
  planDigest : String
  completedAt : Option String
  cancelledAt : Option String

structure DatasetRunRecord where
  datasetId : String
  outputPath : String
  repairPlanId : String
  policyFingerprint : String
  state : DatasetState
  attempts : Nat
  sourceFingerprint : Option String
  outputFingerprint : Option String
  errorClass : Option FailureClass
  errorMessage : Option String
  startedAt : Option String
  updatedAt : String
  completedAt : Option String

/-- Durable batch execution journal of one run. -/
structure Journal where
  identity : RunIdentity
  datasets : Table DatasetRunRecord.datasetId

variable (journal : Journal)

namespace Journal

/-- `SELECT * FROM dataset_runs ORDER BY dataset_id`. -/
def listDatasets : List DatasetRunRecord :=
  journal.datasets.rows.insertionSort fun a b => a.datasetId ≤ b.datasetId

def dataset (id : String) : Option DatasetRunRecord :=
  journal.datasets.find id

def upsertDataset (record : DatasetRunRecord) : Journal :=
  { journal with datasets := journal.datasets.upsert record }

def markRunCompleted (at_ : String) : Journal :=
  { journal with identity := { journal.identity with completedAt := some at_ } }

def markRunCancelled (at_ : String) : Journal :=
  { journal with identity := { journal.identity with cancelledAt := some at_ } }

end Journal

/-- Record of a dataset in a list of records. -/
def findRecord (records : List DatasetRunRecord) (id : String) : Option DatasetRunRecord :=
  records.find? fun record => record.datasetId = id

/-! ## Resuming -/

def mismatch (field expected found : String) : Except OrchestratorError Unit :=
  if expected = found then .ok () else .error (.planIdentityMismatch field expected found)

/-- Verify that an on-disk batch plan matches persisted run authorization. -/
def assertPlanMatchesIdentity (planDigest : BatchPlan → String) (plan : BatchPlan)
    (identity : RunIdentity) : Except OrchestratorError Unit := do
  plan.validateVersion
  mismatch "batch_plan_id" identity.batchPlanId plan.batchPlanId
  mismatch "config_fingerprint" identity.configFingerprint plan.configFingerprint
  mismatch "output_root" identity.outputRoot plan.outputRoot
  mismatch "plan_digest" identity.planDigest (planDigest plan)

/-- Only succeeded rows bind the plan-time digest. -/
def assertSourceFingerprint (ds : DatasetPlan) (record : DatasetRunRecord) :
    Except OrchestratorError Unit :=
  match record.state, record.sourceFingerprint with
  | .succeeded, some sourceFp =>
    if sourceFp = "" then .ok ()
    else mismatch "source_fingerprint" sourceFp ds.repairPlan.datasetFingerprint.digest
  | _, _ => .ok ()

def assertDatasetRecordMatchesPlan (ds : DatasetPlan) (record : DatasetRunRecord) :
    Except OrchestratorError Unit := do
  mismatch "output_path" record.outputPath ds.outputPath
  mismatch "repair_plan_id" record.repairPlanId ds.repairPlan.planId
  mismatch "policy_fingerprint" record.policyFingerprint ds.repairPlan.policyFingerprint
  assertSourceFingerprint ds record

/-- Verify journal dataset records still correspond to the authorized plan. -/
def assertDatasetsMatchPlan (plan : BatchPlan) (records : List DatasetRunRecord) :
    Except OrchestratorError Unit :=
  plan.datasets.forM fun ds =>
    match findRecord records ds.datasetId with
    | none => .ok ()
    | some record => assertDatasetRecordMatchesPlan ds record

def runIsComplete (plan : BatchPlan) (records : List DatasetRunRecord) : Bool :=
  plan.datasets.all fun ds =>
    (findRecord records ds.datasetId).any fun record => record.state.isTerminal

/-- Record that `recover_journal_states` writes for one that needs recovery. -/
def recoveredRecord (record : DatasetRunRecord) (now : String) : DatasetRunRecord :=
  { record with
    state := record.state.recoverAfterCrash
    errorClass := some .recoverable
    errorMessage := some ("recovered after interruption from " ++ record.state.debug)
    updatedAt := now }

def needsRecovery (record : DatasetRunRecord) : Bool :=
  record.state.recoverAfterCrash ≠ record.state

/-- Datasets that a resume leaves alone. -/
def skippedOnResume (records : List DatasetRunRecord) (id : String) : Bool :=
  match findRecord records id with
  | some record =>
    record.state = .succeeded || (!record.state.isRunnable && record.state.isTerminal)
  | none => false

/-! ## Lists of records -/

variable {journal : Journal} {record : DatasetRunRecord} {id : String}

lemma mem_listDatasets : record ∈ journal.listDatasets ↔ record ∈ journal.datasets.rows :=
  List.mem_insertionSort _

/-- The listing has one record for each dataset, so looking it up there is looking it
up in the table. -/
lemma findRecord_listDatasets : findRecord journal.listDatasets id = journal.dataset id := by
  apply Option.ext
  intro found
  rw [Journal.dataset, Table.find_eq_some]
  constructor
  · intro isFound
    have mem := List.mem_of_find?_eq_some isFound
    have sameId : found.datasetId = id := by simpa using List.find?_some isFound
    exact ⟨mem_listDatasets.mp mem, sameId⟩
  · rintro ⟨mem, sameId⟩
    have isSome : (findRecord journal.listDatasets id).isSome :=
      List.find?_isSome.mpr ⟨found, mem_listDatasets.mpr mem, by simpa using sameId⟩
    obtain ⟨other, isFound⟩ := Option.isSome_iff_exists.mp isSome
    have otherId : other.datasetId = id := by simpa using List.find?_some isFound
    have present := mem_listDatasets.mp (List.mem_of_find?_eq_some isFound)
    rw [isFound, Table.eq_of_key present mem (otherId.trans sameId.symm)]

lemma skippedOnResume_eq {records : List DatasetRunRecord} :
    skippedOnResume records id = (findRecord records id).any fun record =>
      record.state.isTerminal := by
  unfold skippedOnResume
  cases findRecord records id with
  | none => rfl
  | some record => cases state : record.state <;> simp [state, DatasetState.isTerminal,
      DatasetState.isRunnable]

lemma dataset_upsertDataset : (journal.upsertDataset record).dataset id =
      if id = record.datasetId then some record else journal.dataset id := by
  split
  · rename_i same
    subst same
    exact Table.find_upsert_self
  · exact Table.find_upsert_of_ne ‹_›

lemma recoveredRecord_state {now : String} (needs : needsRecovery record = true) :
    (recoveredRecord record now).state = .failedRecoverable := by
  change record.state.recoverAfterCrash = .failedRecoverable
  rw [needsRecovery, decide_eq_true_eq] at needs
  cases state : record.state <;> rw [state] at needs <;> first | rfl | exact absurd rfl needs

/-!
# Batch configurations

The configuration of `config.rs`, the locations that `location.rs` and `paths.rs` make of it, and
`build_batch_plan_async`. The file system, the policy and schema files, the planner of one dataset
and the digests are parameters.
-/

open Rust Rust.UrlCrate Schema Storage

structure BatchSection where
  maxConcurrency : Nat
  outputRoot : Option DatasetLocation
  runRoot : Option String
  maxStorageRequests : Nat

structure DatasetConfig where
  id : String
  path : DatasetLocation
  policy : Option String
  targetSchema : Option String
  authorize : List String
  output : Option String

structure BatchConfig where
  schemaVersion : Nat
  batch : BatchSection
  datasets : List DatasetConfig

def BATCH_CONFIG_SCHEMA_VERSION : Nat := 1

/-- What planning needs of its surroundings. -/
structure PlanEnv where
  crate : Crate
  canonicalize : String → Except String String
  readPolicy : Option String → Except OrchestratorError EffectivePolicy
  readTargetSchema : Option String → Except OrchestratorError (Option (List FieldDescriptor))
  planDataset : DatasetLocation → EffectivePolicy → Option (List FieldDescriptor) →
    Except OrchestratorError RepairPlan
  configFingerprint : BatchConfig → String
  derivePlanId : String → String → String → List DatasetPlan → String

variable (env : PlanEnv) (config : BatchConfig) (base : String)

namespace BatchConfig

/-- First id that occurs a second time. -/
def duplicateId (seen : List String) : List DatasetConfig → Option String
  | [] => none
  | ds :: rest => if ds.id ∈ seen then some ds.id else duplicateId (ds.id :: seen) rest

def validate : Except OrchestratorError Unit :=
  if config.schemaVersion ≠ BATCH_CONFIG_SCHEMA_VERSION then
    .error (.unsupportedConfigVersion config.schemaVersion BATCH_CONFIG_SCHEMA_VERSION)
  else if config.batch.maxConcurrency = 0 then
    .error (.invalidConfig "batch.max_concurrency must be >= 1")
  else if config.batch.maxStorageRequests = 0 then
    .error (.invalidConfig "batch.max_storage_requests must be >= 1")
  else
    match duplicateId [] config.datasets with
    | some id => .error (.duplicateDatasetId id)
    | none =>
      if config.batch.outputRoot = none then
        .error (.invalidConfig "batch.output_root is required")
      else .ok ()

def requireOutputRoot : Except OrchestratorError DatasetLocation :=
  match config.batch.outputRoot with
  | some root => .ok root
  | none => .error (.invalidConfig "batch.output_root is required for planning and execution")

end BatchConfig

/-! ## Locations -/

def isAbsolute (path : String) : Bool := Str.startsWith path "/"

def localPathForPolicy (path : String) : String :=
  if isAbsolute path then path else Path.join base path

def resolveDatasetLocation : DatasetLocation → DatasetLocation
  | .localDir location => .localDir ⟨localPathForPolicy base location.path⟩
  | .s3 location => .s3 location

def canonicalizeLocalLocation (location : DatasetLocation) :
    Except OrchestratorError DatasetLocation :=
  match resolveDatasetLocation base location with
  | .localDir resolved => do
      let canonical ← (env.canonicalize resolved.path).mapError .io
      return .localDir ⟨canonical⟩
  | .s3 resolved => .ok (.s3 resolved)

/-- Key prefix of a dataset below a root. -/
def segmentKey (root : S3Location) (segment : String) : String :=
  if root.keyPrefix = "" then segment
  else Str.trimEndMatches '/' root.keyPrefix ++ "/" ++ segment

def joinOutputSegment (root : DatasetLocation) (segment : String) :
    Except OrchestratorError DatasetLocation :=
  if segment = "" || Str.contains segment ".." || Str.contains segment "/" then
    .error (.invalidConfig ("invalid output segment `" ++ segment ++ "`"))
  else
    match root with
    | .localDir location => .ok (.localDir ⟨Path.join location.path segment⟩)
    | .s3 location => .ok (.s3 ⟨location.bucket, segmentKey location segment⟩)

def parseOutputOverride (raw base : String) : Except OrchestratorError DatasetLocation :=
  let trimmed := Str.trim raw
  if Str.contains trimmed "://" || isAbsolute trimmed then do
    let location ← (DatasetLocation.parse env.crate trimmed).mapError fun error =>
      .invalidConfig error.display
    return resolveDatasetLocation base location
  else
    .error (.invalidConfig ("output override `" ++ raw ++ "` is not an absolute path or URI"))

def resolveDatasetOutput (outputRoot : DatasetLocation) (ds : DatasetConfig) :
    Except OrchestratorError DatasetLocation :=
  match ds.output with
  | none => joinOutputSegment outputRoot ds.id
  | some text =>
    if Str.contains text "://" || isAbsolute text then parseOutputOverride env text base
    else if Str.contains text "/" || Str.contains text ".." then
      .ok (.localDir ⟨localPathForPolicy base text⟩)
    else joinOutputSegment outputRoot text

/-- Resolved source/output locations for every dataset in a batch configuration. -/
structure OutputMapping where
  datasetId : String
  source : DatasetLocation
  output : DatasetLocation

def OutputMapping.spec (mapping : OutputMapping) : BatchPathSpec :=
  ⟨mapping.datasetId, mapping.source, mapping.output⟩

def resolveMapping (outputRoot : DatasetLocation) (ds : DatasetConfig) :
    Except OrchestratorError OutputMapping := do
  let source ← canonicalizeLocalLocation env base ds.path
  let output ← resolveDatasetOutput env base outputRoot ds
  return ⟨ds.id, source, output⟩

def checkDistinctOutputs (seen : List String) : List OutputMapping → Except OrchestratorError Unit
  | [] => .ok ()
  | mapping :: rest =>
    if mapping.output.displayUri ∈ seen then
      .error (.pathOverlap ("datasets `" ++ mapping.datasetId ++
        "` and others target the same output `" ++ mapping.output.displayUri ++ "`"))
    else checkDistinctOutputs (mapping.output.displayUri :: seen) rest

/-- Derive deterministic per-dataset output locations from batch configuration. -/
def resolveOutputMappings : Except OrchestratorError (List OutputMapping) := do
  let root ← config.requireOutputRoot
  let mappings ← config.datasets.mapM (resolveMapping env base (resolveDatasetLocation base root))
  checkDistinctOutputs [] mappings
  validateBatchOverlap (mappings.map OutputMapping.spec)
  return mappings

/-- Local directory for durable run journals and plan snapshots. -/
def resolveRunRoot : Except OrchestratorError String :=
  match config.batch.runRoot with
  | some runRoot => .ok (localPathForPolicy base runRoot)
  | none => do
      let root ← config.requireOutputRoot
      match resolveDatasetLocation base root with
      | .localDir location => return location.path
      | .s3 _ => return Path.join (Path.join base ".parqonaut") "runs"

/-! ## Plans -/

def planMapping (ds : DatasetConfig) (mapping : OutputMapping) :
    Except OrchestratorError DatasetPlan := do
  let policy ← env.readPolicy (ds.policy.map (localPathForPolicy base))
  let target ← env.readTargetSchema (ds.targetSchema.map (localPathForPolicy base))
  let repairPlan ← env.planDataset mapping.source policy target
  return ⟨mapping.datasetId, mapping.source.displayUri, mapping.output.displayUri, repairPlan,
    ds.authorize⟩

def buildBatchPlan : Except OrchestratorError BatchPlan := do
  config.validate
  let mappings ← resolveOutputMappings env config base
  let root ← config.requireOutputRoot
  let outputRoot := resolveDatasetLocation base root
  let runRoot ← resolveRunRoot config base
  let datasets ← (config.datasets.zip mappings).mapM fun (ds, mapping) =>
    planMapping env base ds mapping
  let fingerprint := env.configFingerprint config
  return {
    schemaVersion := BATCH_PLAN_SCHEMA_VERSION
    batchPlanId := env.derivePlanId fingerprint outputRoot.displayUri runRoot datasets
    configFingerprint := fingerprint
    maxConcurrency := config.batch.maxConcurrency
    outputRoot := outputRoot.displayUri
    datasets := datasets }

end Parqonaut.Orchestrator
