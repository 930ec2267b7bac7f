import Mathlib.Algebra.Ring.Nat
import Mathlib.Data.List.Sort
import Parqonaut.Storage.Publication

/-!
# Repair plans

The errors, actions, operations and plans of `error.rs`, `action.rs`, `safety.rs` and `plan.rs`,
and the authorization and audit records of `authorization.rs`. Texts for the user and time stamps
are left out.
-/

namespace Parqonaut.Repair

inductive RepairError where
  | datasetUnreadable (message : String)
  | datasetChanged (expected actual : String)
  | unsupportedOperation (operationId action : String)
  | reviewRequiredNotAuthorized (operationId : String)
  | destructiveNotAllowed (operationId : String)
  | outputExists (output : String)
  | sourceDestinationOverlap (message : String)
  | preconditionFailed (operationId detail : String)
  | verificationInvariantFailed (invariant detail : String)
  | partialExecution (staging : String)
  | invalidPlan (message : String)
  | unsupportedPlanVersion (found supported : Nat)
  | scanFailed (message : String)
  | transformFailed (message : String)
  | io (message : String)
  | json (message : String)
  | storage (message : String)
  | publication (message : String)
  deriving DecidableEq

def RepairError.display : RepairError → String
  | .datasetUnreadable message => "input dataset is unreadable: " ++ message
  | .datasetChanged expected actual =>
    "dataset changed since plan generation (expected fingerprint " ++ expected ++
      ", found " ++ actual ++ ")"
  | .unsupportedOperation operationId action =>
    "unsupported repair operation: " ++ operationId ++ " (" ++ action ++ ")"
  | .reviewRequiredNotAuthorized operationId =>
    "review-required repair not authorized: " ++ operationId
  | .destructiveNotAllowed operationId =>
    "destructive repair cannot be executed automatically: " ++ operationId
  | .outputExists output => "output path already exists: " ++ output
  | .sourceDestinationOverlap message => "source and destination overlap: " ++ message
  | .preconditionFailed operationId detail =>
    "precondition failed for operation " ++ operationId ++ ": " ++ detail
  | .verificationInvariantFailed invariant detail =>
    "verification invariant failed: " ++ invariant ++ " — " ++ detail
  | .partialExecution staging =>
    "repair partially executed; staging retained at " ++ staging
  | .invalidPlan message => "plan file invalid: " ++ message
  | .unsupportedPlanVersion found supported =>
    "repair plan schema version " ++ toString found ++
      " is not supported by this PARQONAUT build (supported: " ++ toString supported ++ ")"
  | .scanFailed message => "scan failed: " ++ message
  | .transformFailed message => "transform failed: " ++ message
  | .io message => "io error: " ++ message
  | .json message => "json error: " ++ message
  | .storage message => "storage error: " ++ message
  | .publication message => "publication error: " ++ message

/-- Safety classification for repair operations. -/
inductive RepairSafety where
  | safe
  | reviewRequired
  | destructive
  | blocked
  deriving DecidableEq

/-- Concrete repair action. -/
inductive RepairAction where
  | recompress (codec : String) (targetPaths : List String)
  | rebuildStatistics (targetPaths : List String)
  | resizeRowGroups (targetBytes : Nat) (targetPaths : List String)
  | mergeSmallFiles (targetBytes : Nat) (inputPaths : List String)
  | splitLargeFile (targetBytes : Nat) (inputPath : String)
  | alignSchema (field fromType toType : String)
  | castColumn (column fromType toType : String)
  | renameColumn (source target : String)
  | repartition (strategy : String)
  deriving DecidableEq

def RepairAction.kindLabel : RepairAction → String
  | .recompress .. => "recompress"
  | .rebuildStatistics .. => "rebuild_statistics"
  | .resizeRowGroups .. => "resize_row_groups"
  | .mergeSmallFiles .. => "merge_small_files"
  | .splitLargeFile .. => "split_large_file"
  | .alignSchema .. => "align_schema"
  | .castColumn .. => "cast_column"
  | .renameColumn .. => "rename_column"
  | .repartition .. => "repartition"

structure RepairOperation where
  operationId : String
  safety : RepairSafety
  action : RepairAction
  dependsOn : List String
  deriving DecidableEq

/-- Effective repair policy recorded in every generated plan. -/
structure RepairPolicy where
  defaultCompression : String
  targetRowGroupMb : Nat
  smallFileThresholdMb : Nat
  mergeTargetMb : Nat
  minFilesForMerge : Nat
  minCodecsForInconsistency : Nat

namespace RepairPolicy

/-- `RepairPolicy::default`. -/
def standard : RepairPolicy where
  defaultCompression := "zstd"
  targetRowGroupMb := 128
  smallFileThresholdMb := 16
  mergeTargetMb := 256
  minFilesForMerge := 4
  minCodecsForInconsistency := 2

def smallFileThresholdBytes (policy : RepairPolicy) : Nat :=
  policy.smallFileThresholdMb * 1024 * 1024

def targetRowGroupBytes (policy : RepairPolicy) : Nat :=
  policy.targetRowGroupMb * 1024 * 1024

end RepairPolicy

structure FingerprintEntry where
  relativePath : String
  sizeBytes : Nat
  numRows : Int
  numRowGroups : Nat
  schemaSignature : String
  compressionCodecs : List String
  deriving DecidableEq

structure DatasetFingerprint where
  version : Nat
  root : String
  entries : List FingerprintEntry
  digest : String

def DatasetFingerprint.verifyAgainst (planned current : DatasetFingerprint) :
    Except RepairError Unit :=
  if planned.digest ≠ current.digest then
    .error (.datasetChanged planned.digest current.digest)
  else .ok ()

def PLAN_SCHEMA_VERSION : Nat := 1

/-- File of an output that holds the execution manifest. -/
def EXECUTION_MANIFEST_FILE : String := ".parqonaut-manifest.json"

structure RepairPlan where
  schemaVersion : Nat
  planId : String
  datasetRoot : String
  datasetFingerprint : DatasetFingerprint
  policyFingerprint : String
  repairPolicy : RepairPolicy
  operations : List RepairOperation

def RepairPlan.validateVersion (plan : RepairPlan) : Except RepairError Unit :=
  if plan.schemaVersion ≠ PLAN_SCHEMA_VERSION then
    .error (.unsupportedPlanVersion plan.schemaVersion PLAN_SCHEMA_VERSION)
  else .ok ()

/-! ## Authorization and audit -/

/-- How an operation was authorized for execution. -/
inductive AuthorizationSource where
  | automaticSafePolicy
  | explicitUser
  | notAuthorized
  | blockedByPolicy

/-- Shared audit linkage duplicated on each operation record. -/
structure OperationAuditContext where
  planId : String
  datasetFingerprint : String
  policyFingerprint : String
  executorVersion : String

/-- Per-operation audit record written to the execution manifest. -/
structure OperationAuditRecord where
  context : OperationAuditContext
  operationId : String
  safety : RepairSafety
  authorizationSource : AuthorizationSource
  executed : Bool
  skipReason : Option String

/-- Explicit operation-level authorization supplied by the user. -/
structure RepairAuthorization where
  authorizedOperationIds : List String

def RepairAuthorization.isAuthorized (authorization : RepairAuthorization)
    (operationId : String) : Bool :=
  authorization.authorizedOperationIds.contains operationId

/-!
# The order of operations

`sort_by_dependencies` of `deps.rs`: a topological sort that always takes the least ready operation
id. The maps of the source are functions on ids with the sorted list of ids.
-/

/-- Ids of the operations, sorted and without repetition. -/
def sortedIds (ids : List String) : List String :=
  (ids.insertionSort (· ≤ ·)).dedup

/-- `op_map[id]`: a later operation with the same id replaces an earlier one. -/
def operationById (ops : List RepairOperation) (id : String) : Option RepairOperation :=
  ops.reverse.find? fun op => op.operationId = id

/-- Dependents of `id`, in the order of the operations and once for each mention. -/
def dependentsOf (ops : List RepairOperation) (id : String) : List String :=
  ops.flatMap fun op => (op.dependsOn.filter (· = id)).map fun _ => op.operationId

/-- First dependency that is not an operation of the plan. -/
def unknownDependency (ops : List RepairOperation) : Option (String × String) :=
  ops.findSome? fun op =>
    (op.dependsOn.find? fun dep => !(ops.map (·.operationId)).contains dep).map
      fun dep => (op.operationId, dep)

/-- Counter of open dependencies of one operation. It wraps below zero. -/
def decrement (count : Nat) : Nat :=
  if count = 0 then 2 ^ 64 - 1 else count - 1

/-- One dependent of a finished operation loses an open dependency. -/
def release (state : (String → Nat) × List String) (child : String) :
    (String → Nat) × List String :=
  let count := decrement (state.1 child)
  (fun id => if id = child then count else state.1 id,
    if count = 0 then state.2 ++ [child] else state.2)

/-- Main loop: take the least ready id until none is left. No id becomes ready twice, so one round
for each is enough. -/
def sortLoop (ops : List RepairOperation) :
    (rounds : Nat) → (String → Nat) → List String → List RepairOperation
  | 0, _, _ => []
  | _ + 1, _, [] => []
  | rounds + 1, indegree, id :: ready =>
    let (indegree, ready) := (dependentsOf ops id).foldl release (indegree, ready)
    (operationById ops id).toList ++ sortLoop ops rounds indegree (ready.insertionSort (· ≤ ·))

/-- Topological sort; returns an error on cycles. -/
def sortByDependencies (ops : List RepairOperation) : Except RepairError (List RepairOperation) :=
  match unknownDependency ops with
  | some (operationId, dep) =>
    .error (.preconditionFailed operationId ("unknown dependency " ++ dep))
  | none =>
    let indegree := fun id =>
      ((operationById ops id).map (·.dependsOn.length)).getD 0
    let ready := (sortedIds (ops.map (·.operationId))).filter (indegree · = 0)
    let sorted := sortLoop ops ops.length indegree ready
    if sorted.length ≠ ops.length then
      .error (.invalidPlan "operation dependency cycle detected")
    else .ok sorted

variable {ops : List RepairOperation} {op : RepairOperation}

lemma mem_of_operationById {id : String} (found : operationById ops id = some op) : op ∈ ops :=
  List.mem_reverse.mp (List.mem_of_find?_eq_some found)

lemma mem_sortLoop {rounds : Nat} {indegree : String → Nat}
    {ready : List String} (mem : op ∈ sortLoop ops rounds indegree ready) :
    op ∈ ops := by
  induction rounds generalizing indegree ready with
  | zero => simp [sortLoop] at mem
  | succ _ ih =>
    cases ready with
    | nil => simp [sortLoop] at mem
    | cons =>
      rcases List.mem_append.mp mem with here | later
      · exact mem_of_operationById (Option.mem_toList.mp here)
      · exact ih later

/-- The sort only lists operations of the plan. -/
lemma mem_of_sortByDependencies {sorted : List RepairOperation}
    (sorts : sortByDependencies ops = .ok sorted) (mem : op ∈ sorted) :
    op ∈ ops := by
  rw [sortByDependencies] at sorts
  split at sorts
  · cases sorts
  · dsimp only at sorts
    split at sorts
    · cases sorts
    · cases sorts
      exact mem_sortLoop mem

/-!
# Publishing a work directory

`publish_work_dir` of `execute_storage.rs`: upload the files of the work directory, in the order of
the directory walk, and the execution manifest, then commit and promote.
-/

open Effects Rust Storage

variable {Bytes : Type}

/-- A file of the work directory: its path relative to the directory and contents. -/
structure WorkFile (Bytes : Type) where
  path : String
  data : Bytes

/-- Part of publication that works on an open session. -/
abbrev PublishM (Bytes : Type) : Type → Type :=
  Method (Request Bytes) Request.Answer RemotePublicationSession RepairError

def storageErr (error : StorageError) : RepairError := .storage error.display

def publicationErr (error : PublicationError) : RepairError := .publication error.display

/-- Relative key under which a file is published. -/
def WorkFile.rel (file : WorkFile Bytes) : String :=
  Str.replaceChar file.path '\\' '/'

/-- Upload one object and record what the backend reported. -/
def uploadObject (serde : SerdeJson Bytes) (rel : String) (data : Bytes) :
    PublishM Bytes PublicationObjectRecord := do
  let metadata ← Method.mapErr publicationErr
    (RemotePublicationSession.putVersionObject serde rel data)
  return ⟨rel, metadata.size, metadata.etag, metadata.versionId⟩

def uploadFiles (serde : SerdeJson Bytes) :
    List (WorkFile Bytes) → PublishM Bytes (List PublicationObjectRecord)
  | [] => return []
  | file :: rest => do
      let record ← uploadObject serde file.rel file.data
      let records ← uploadFiles serde rest
      return record :: records

/-- Address of the execution manifest that is reported to the caller. -/
def manifestUri (output : DatasetLocation) (runId : String) : Except RepairError String :=
  match output with
  | .s3 location =>
    match location.objectKey
      (".parqonaut/versions/" ++ runId ++ "/data/" ++ EXECUTION_MANIFEST_FILE) with
    | .ok key => .ok ("s3://" ++ location.bucket ++ "/" ++ key)
    | .error error => .error (storageErr error)
  | .localDir location =>
    .ok (Path.join location.path (versionDataKey runId EXECUTION_MANIFEST_FILE))

def checkUri (output : DatasetLocation) (runId : String) : PublishM Bytes String :=
  match manifestUri output runId with
  | .ok uri => return uri
  | .error error => throw error

/-- Everything after the session has begun. -/
def publishSession (serde : SerdeJson Bytes) (output : DatasetLocation)
    (work : List (WorkFile Bytes)) (runId : String) (manifest : Bytes) :
    PublishM Bytes (String × String) := do
  let records ← uploadFiles serde work
  let manifestRecord ← uploadObject serde EXECUTION_MANIFEST_FILE manifest
  Method.mapErr publicationErr (RemotePublicationSession.markUploaded serde)
  Method.mapErr publicationErr (RemotePublicationSession.markVerified serde)
  Method.mapErr publicationErr (RemotePublicationSession.writeManifest serde
    ⟨PUBLICATION_CONTRACT_VERSION, runId, runId, records ++ [manifestRecord]⟩)
  let uri ← checkUri output runId
  Method.mapErr publicationErr (RemotePublicationSession.finish serde true)
  return (output.displayUri, uri)

/-- Publish a work directory as the version of a run. `manifest` is the serialised
execution manifest. -/
def publishWorkDir (serde : SerdeJson Bytes) (capabilities : StorageCapabilities)
    (output : DatasetLocation) (work : List (WorkFile Bytes)) (runId : String) (manifest : Bytes) :
    Fallible (Request Bytes) Request.Answer RepairError (String × String) := do
  let session ← Fallible.mapErr publicationErr
    (RemotePublicationSession.begin serde capabilities output runId)
  Method.callOn session (publishSession serde output work runId manifest)

end Parqonaut.Repair
