import Parqonaut.Repair.Inspect

/-!
# Applying repair operations

`run_repair_operations` and `apply_operation` of `execute.rs`, on a working directory. The working
set maps the relative names of the dataset's files to their paths there.
-/

namespace Parqonaut.Repair

open Effects Rust

variable {File Schema Batch : Type}

/-- Working set. The source keeps it sorted by name, so its names are listed in
that order. -/
abbrev Working : Type := AList fun _ : String => String

def Working.names (working : Working) : List String :=
  working.keys.insertionSort (· ≤ ·)

def transformFailed (error : ParqknifeError) : RepairError := .transformFailed error.display

/-! ## Rewriting in place -/

def targetPathsAll (working : Working) (targetPaths : List String) : List String :=
  if targetPaths.isEmpty then working.names else targetPaths

/-- Rewrite every named file through a temporary file next to it. The entry of the
working set stays as it is. -/
def rewriteEach (extension missing : String)
    (transform : (input output : String) → TransformM File Unit) (working : Working) :
    List String → LocalM File Unit
  | [] => return ()
  | rel :: rest =>
    match working.lookup rel with
    | none => throw (.preconditionFailed rel missing)
    | some src => do
        let tmp := Path.withExtension src extension
        Fallible.mapErr transformFailed (transform src tmp)
        fsCall (.rename tmp src)
        rewriteEach extension missing transform working rest

variable (tools : Toolkit File Schema Batch)

def renameTargets (working : Working) (paths : List String) (source target : String) :
    LocalM File Unit :=
  rewriteEach "parqonaut-rename.parquet" "rename target missing"
    (rewriteParquetWithRename tools source target) working paths

def castTargets (working : Working) (paths : List String) (column toType : String) :
    LocalM File Unit :=
  rewriteEach "parqonaut-cast.parquet" "cast target missing"
    (rewriteParquetWithCast tools column toType) working paths

def rewriteTargets (working : Working) (targetPaths : List String) (options : WriterOptions) :
    LocalM File Unit :=
  rewriteEach "parqonaut-tmp.parquet" "target path not in working set"
    (rewriteParquetFile tools options) working
    ((targetPathsAll working targetPaths).filter fun rel => (working.lookup rel).isSome)

/-! ## Replacing files -/

/-- Drop the consumed names and their files. A file that cannot be removed stays. -/
def removeConsumed : List String → Working → LocalM File Working
  | [], working => return working
  | rel :: rest, working =>
    match working.lookup rel with
    | none => removeConsumed rest working
    | some path => do
        fsTry (.removeFile path)
        removeConsumed rest (working.erase rel)

/-- Copy the outputs of a transform into the working directory under their new names. -/
def copyOutputs (work : String) (nameOf : Nat → String) :
    (idx : Nat) → List String → Working → LocalM File Working
  | _, [], working => return working
  | idx, out :: rest, working => do
      let dest := Path.join work (nameOf idx)
      fsCall (.copy out dest)
      copyOutputs work nameOf (idx + 1) rest (working.insert (nameOf idx) dest)

/-- Replace the consumed files by the outputs that a transform leaves in a scratch
directory. -/
def replaceFiles (work scratch : String) (transform : TransformM File (List String))
    (consumed : List String) (nameOf : Nat → String) (working : Working) :
    LocalM File Working := do
  fsCall (.createDirAll scratch)
  let outputs ← Fallible.mapErr transformFailed transform
  let kept ← removeConsumed consumed working
  let filled ← copyOutputs work nameOf 0 outputs kept
  fsTry (.removeDirAll scratch)
  return filled

def mergedName (idx : Nat) : String := "merged-part-" ++ Str.zeroPadded 4 idx ++ ".parquet"

def splitName (inputPath : String) (idx : Nat) : String :=
  inputPath ++ ".split-" ++ Str.zeroPadded 4 idx ++ ".parquet"

def mergeTarget (work : String) (targetBytes : Nat) : MergeTarget :=
  ⟨Path.join work "_merge_out", "part", targetBytes, ⟨none, none, false⟩⟩

def splitTarget (work : String) (targetBytes : Nat) : MergeTarget :=
  ⟨Path.join work "_split_out", "split", targetBytes, ⟨none, none, true⟩⟩

/-- Paths of the inputs that are in the working set. -/
def presentPaths (working : Working) (inputPaths : List String) : List String :=
  inputPaths.filterMap working.lookup

variable [DecidableEq Schema]

def mergeSmallFiles (work : String) (targetBytes : Nat) (inputPaths : List String)
    (working : Working) : LocalM File Working :=
  let abs := presentPaths working inputPaths
  if abs.length < 2 then return working
  else
    replaceFiles work (Path.join work "_merge_out")
      (mergeParquetFiles tools (mergeTarget work targetBytes) abs) inputPaths mergedName working

def splitLargeFile (root work : String) (targetBytes : Nat) (inputPath : String)
    (working : Working) : LocalM File Working :=
  let src := (working.lookup inputPath).getD (Path.join root inputPath)
  replaceFiles work (Path.join work "_split_out")
    (splitParquetFile tools (splitTarget work targetBytes) src) [inputPath] (splitName inputPath)
    working

/-- A change of file contents that leaves the working set alone. -/
def inPlace (working : Working) (rewrite : LocalM File Unit) : LocalM File Working := do
  rewrite
  return working

def applyOperation (op : RepairOperation) (root work : String) (working : Working) :
    LocalM File Working :=
  match op.action with
  | .mergeSmallFiles targetBytes inputPaths =>
    mergeSmallFiles tools work targetBytes inputPaths working
  | .splitLargeFile targetBytes inputPath =>
    splitLargeFile tools root work targetBytes inputPath working
  | .resizeRowGroups targetBytes targetPaths =>
    inPlace working (rewriteTargets tools working targetPaths
      ⟨none, some (max (targetBytes / (1024 * 1024)) 1), false⟩)
  | .recompress codec targetPaths =>
    inPlace working (rewriteTargets tools working targetPaths ⟨some codec, none, false⟩)
  | .rebuildStatistics targetPaths =>
    inPlace working (rewriteTargets tools working targetPaths ⟨none, none, true⟩)
  | .castColumn column _ toType =>
    inPlace working (castTargets tools working (targetPathsAll working []) column toType)
  | .alignSchema field _ toType =>
    inPlace working (castTargets tools working (targetPathsAll working []) field toType)
  | .renameColumn source target =>
    inPlace working (renameTargets tools working (targetPathsAll working []) source target)
  | .repartition strategy =>
    throw (.unsupportedOperation op.operationId (RepairAction.repartition strategy).kindLabel)

/-! ## Running a plan -/

structure RepairExecutor where
  authorization : RepairAuthorization
  verifyBeforePublish : Bool

structure RepairOperationOutcome where
  executed : List String
  skipped : List String
  audit : List OperationAuditRecord

/-- Why an operation runs or is skipped. -/
def authorizationFor (executor : RepairExecutor) (op : RepairOperation) : AuthorizationSource :=
  match op.safety with
  | .safe => .automaticSafePolicy
  | .reviewRequired =>
    if executor.authorization.isAuthorized op.operationId then .explicitUser
    else .notAuthorized
  | .blocked | .destructive => .blockedByPolicy

def skipReason (op : RepairOperation) : AuthorizationSource → Option String
  | .automaticSafePolicy | .explicitUser => none
  | .notAuthorized =>
    some ("review-required operation " ++ op.operationId ++ " not authorized")
  | .blockedByPolicy => some "operation blocked by safety policy"

/-- The operation is executed and not skipped. -/
def runs (executor : RepairExecutor) (op : RepairOperation) : Bool :=
  (skipReason op (authorizationFor executor op)).isNone

def auditRecord (executor : RepairExecutor) (context : OperationAuditContext)
    (op : RepairOperation) : OperationAuditRecord :=
  let source := authorizationFor executor op
  ⟨context, op.operationId, op.safety, source, runs executor op, skipReason op source⟩

/-- Record what happened to one operation. -/
def RepairOperationOutcome.record (outcome : RepairOperationOutcome) (executor : RepairExecutor)
    (context : OperationAuditContext) (op : RepairOperation) : RepairOperationOutcome where
  executed := if runs executor op then outcome.executed ++ [op.operationId] else outcome.executed
  skipped := if runs executor op then outcome.skipped else outcome.skipped ++ [op.operationId]
  audit := outcome.audit ++ [auditRecord executor context op]

/-- One round of the loop over the sorted operations. -/
def runOperation (executor : RepairExecutor) (root work : String) (op : RepairOperation)
    (working : Working) : LocalM File Working :=
  if runs executor op then applyOperation tools op root work working else return working

def runSorted (executor : RepairExecutor) (context : OperationAuditContext)
    (root work : String) : List RepairOperation → Working → RepairOperationOutcome →
    LocalM File (Working × RepairOperationOutcome)
  | [], working, outcome => return (working, outcome)
  | op :: rest, working, outcome => do
      let next ← runOperation tools executor root work op working
      runSorted executor context root work rest next (outcome.record executor context op)

def runRepairOperations (executor : RepairExecutor) (plan : RepairPlan) (root work : String)
    (working : Working) (context : OperationAuditContext) :
    LocalM File (Working × RepairOperationOutcome) := do
  let sorted ← liftResult id (sortByDependencies plan.operations)
  runSorted tools executor context root work sorted working ⟨[], [], []⟩

/-!
# Executing a repair plan on the local disk

`RepairExecutor::execute` of `execute.rs`: it repairs a copy of the dataset, fills the output
directory, verifies it and records the result. The execution id is an input. Time stamps are left
out.
-/

variable {File Schema Batch : Type}

structure ExecutionReport where
  executionId : String
  planId : String
  operationsExecuted : List String
  operationsSkipped : List String
  stagingPath : String
  outputPath : String
  manifestPath : String
  success : Bool

def PARQONAUT_VERSION : String := "0.9.2"

def auditContext (plan : RepairPlan) : OperationAuditContext :=
  ⟨plan.planId, plan.datasetFingerprint.digest, plan.policyFingerprint, PARQONAUT_VERSION⟩

/-- `create_dir_all` of the directory that is to hold `path`. -/
def createParent (path : String) : LocalM File Unit :=
  match Path.parent path with
  | some parent => fsCall (.createDirAll parent)
  | none => return ()

/-- Copy the parquet files of the scan into the working directory. -/
def seedAssets (root work : String) : List AssetRecord → Working → LocalM File Working
  | [], working => return working
  | asset :: rest, working =>
    if asset.format ≠ .parquet then seedAssets root work rest working
    else do
      let rel := relativize root asset.path
      let dest := Path.join work rel
      createParent dest
      fsCall (.copy asset.path dest)
      seedAssets root work rest (working.insert rel dest)

def seedWorkDir (root work : String) (scan : ScanReport) : LocalM File Working :=
  seedAssets root work scan.assets ∅

def copyFiles (work output : String) : List String → LocalM File Unit
  | [] => return ()
  | rel :: rest => do
      let dest := Path.join output rel
      createParent dest
      fsCall (.copy (Path.join work rel) dest)
      copyFiles work output rest

def copyWorkToOutput (work output : String) : LocalM File Unit := do
  let names ← fsCall (.walkFiles work)
  copyFiles work output names

def stagingPath (parent executionId : String) : String :=
  Path.join parent (".parqonaut-staging-" ++ executionId)

variable (tools : Toolkit File Schema Batch) [DecidableEq Schema] (executor : RepairExecutor)
  (plan : RepairPlan) (root output : String) (scan : ScanReport) (executionId : String)

/-- Run the operations of the plan. On an error the staging directory is kept. -/
def runOrRetain (staging work : String) (working : Working) :
    LocalM File RepairOperationOutcome := do
  match ← Fallible.attempt
      (runRepairOperations tools executor plan root work working (auditContext plan)) with
  | .ok (_, outcome) => return outcome
  | .error error => throw (.partialExecution (staging ++ " (" ++ error.display ++ ")"))

/-- What the repair of the copy leaves for verification. -/
structure Repaired where
  staging : String
  outcome : RepairOperationOutcome
  afterScan : ScanReport

/-- Checks before anything is written. -/
def checkExecution : LocalM File Unit := do
  liftResult id plan.validateVersion
  if ← fsCall (.exists output) then
    throw (.outputExists output)
  else if pathsOverlap plan.datasetRoot output then
    throw (.sourceDestinationOverlap (plan.datasetRoot ++ " ⊆ " ++ output))
  else
    let current ← computeFingerprintFromScan tools plan.datasetRoot scan
    liftResult id (plan.datasetFingerprint.verifyAgainst current)

/-- Repair a copy of the dataset and copy the result to the output directory. -/
def repairToOutput : LocalM File Repaired := do
  checkExecution tools plan output scan
  let staging := stagingPath ((Path.parent output).getD ".") executionId
  let work := Path.join staging "work"
  fsCall (.createDirAll work)
  let working ← seedWorkDir plan.datasetRoot work scan
  let outcome ← runOrRetain tools executor plan plan.datasetRoot staging work working
  fsCall (.createDirAll output)
  copyWorkToOutput work output
  let afterScan ← scanDirectory tools output
  return ⟨staging, outcome, afterScan⟩

/-- Verification that the executor asks for. -/
def verification (before after : ScanReport) (beforeRoot afterRoot : String) :
    LocalM File (Option VerificationReport) :=
  if executor.verifyBeforePublish then do
    let report ← verifyRepair tools before after beforeRoot afterRoot plan.repairPolicy none
    return some report
  else return none

/-- Manifest of an execution. -/
def executionManifest (outputFp : DatasetFingerprint) (audit : List OperationAuditRecord)
    (verified : Option VerificationReport) : ExecutionManifest where
  manifestVersion := MANIFEST_VERSION
  planId := plan.planId
  executionId := executionId
  parqonautVersion := PARQONAUT_VERSION
  sourceFingerprint := plan.datasetFingerprint
  outputFingerprint := outputFp
  policyFingerprint := plan.policyFingerprint
  operations := audit
  verification := verified

def executionReport (outcome : RepairOperationOutcome) (staging output manifestPath : String) :
    ExecutionReport where
  executionId := executionId
  planId := plan.planId
  operationsExecuted := outcome.executed
  operationsSkipped := outcome.skipped
  stagingPath := staging
  outputPath := output
  manifestPath := manifestPath
  success := true

variable (encode : ExecutionManifest → File)

/-- Verify the output directory and write the manifest into it. -/
def recordOutput (executor : RepairExecutor) (plan : RepairPlan) (output : String)
    (scan : ScanReport) (executionId : String) (repaired : Repaired) :
    LocalM File (ExecutionReport × ExecutionManifest) := do
  let verified ← verification tools executor plan scan repaired.afterScan plan.datasetRoot output
  let outputFp ← computeFingerprintFromScan tools output repaired.afterScan
  let manifest := executionManifest plan executionId outputFp repaired.outcome.audit verified
  let manifestPath := Path.join output EXECUTION_MANIFEST_FILE
  fsCall (.write manifestPath (encode manifest))
  fsTry (.removeDirAll repaired.staging)
  return (executionReport plan executionId repaired.outcome repaired.staging output manifestPath,
    manifest)

/-- `execute` together with the manifest that it writes. -/
def executeRecorded (executor : RepairExecutor) (plan : RepairPlan) (output : String)
    (scan : ScanReport) (executionId : String) :
    LocalM File (ExecutionReport × ExecutionManifest) := do
  let repaired ← repairToOutput tools executor plan output scan executionId
  recordOutput tools encode executor plan output scan executionId repaired

/-- `RepairExecutor::execute`. -/
def execute (executor : RepairExecutor) (plan : RepairPlan) (output : String)
    (scan : ScanReport) (executionId : String) : LocalM File ExecutionReport := do
  let recorded ← executeRecorded tools encode executor plan output scan executionId
  return recorded.1

/-!
# Executing a repair plan on storage locations

`RepairExecutor::execute_storage` of `execute_storage.rs`: the transforms run on a local working
directory; source and output are local or in object stores. The page loop of the remote inventory
is bounded; `none` says that the bound was too small.
-/

open Storage Fallible

variable {File Schema Batch : Type}

/-- Backends of the source and of the output. -/
abbrev RemoteRequest (File : Type) : Type := Request File ⊕ Request File

@[reducible] def RemoteRequest.Answer : RemoteRequest File → Type :=
  SumResp Request.Answer Request.Answer

abbrev StorageRepairM (File : Type) : Type → Type :=
  Fallible (FsRequest File ⊕ RemoteRequest File)
    (SumResp FsRequest.Answer RemoteRequest.Answer) RepairError

def onDisk {α : Type} (prog : LocalM File α) : StorageRepairM File α := inl prog

def onSource {α : Type} (prog : Fallible (Request File) Request.Answer RepairError α) :
    StorageRepairM File α :=
  inr (inl prog)

def onOutput {α : Type} (prog : Fallible (Request File) Request.Answer RepairError α) :
    StorageRepairM File α :=
  inr (inr prog)

/-- What the executor takes from its surroundings: the URI parser, the temporary directory,
serialisation and the backends. -/
structure StorageContext (File : Type) where
  parse : String → Except StorageError DatasetLocation
  tempDir : String
  serde : SerdeJson File
  capabilities : StorageCapabilities
  inventoryPages : Nat

/-! ## Locations -/

def stagingParentPath (tempDir : String) (source output : DatasetLocation) : String :=
  match output, source with
  | .localDir location, _ => (Path.parent location.path).getD "."
  | .s3 _, .localDir location => (Path.parent location.path).getD "."
  | .s3 _, .s3 _ => Path.join tempDir "parqonaut-repair-staging"

def operationRoot (source : DatasetLocation) (work : String) : String :=
  match source with
  | .localDir location => location.path
  | .s3 _ => work

/-- Canonical scan root string for a location. -/
def locationRoot : DatasetLocation → String
  | .localDir location => location.path
  | .s3 location => location.displayUri

def normalizeS3Prefix (text : String) : String :=
  Str.trimEndMatches '/' (Str.trimStartMatches '/' text)

def s3PrefixesOverlap (a b : S3Location) : Bool :=
  a.bucket = b.bucket &&
    (Str.startsWith (normalizeS3Prefix a.keyPrefix) (normalizeS3Prefix b.keyPrefix) ||
      Str.startsWith (normalizeS3Prefix b.keyPrefix) (normalizeS3Prefix a.keyPrefix))

def locationsOverlap : DatasetLocation → DatasetLocation → Bool
  | .localDir a, .localDir b => pathsOverlap a.path b.path
  | .s3 a, .s3 b => s3PrefixesOverlap a b
  | _, _ => false

/-! ## Seeding -/

def streamObjectToFile (object : ObjectLocation) (dest : String) :
    StorageRepairM File Unit := do
  let contents ← onSource (mapErr storageErr (storageCall (.readStream object)))
  onDisk (fsCall (.write dest contents))

/-- Copy the parquet objects of the inventory into the working directory. -/
def seedObjects (root : S3Location) (work : String) :
    List ObjectMetadata → Working → StorageRepairM File Working
  | [], working => return working
  | object :: rest, working =>
    match datasetObjectRelativeKey root object.location with
    | none => seedObjects root work rest working
    | some rel =>
      if !Str.endsWith rel ".parquet" then seedObjects root work rest working
      else do
        let dest := Path.join work rel
        onDisk (createParent dest)
        streamObjectToFile object.location dest
        seedObjects root work rest (working.insert rel dest)

def seedWorkDirFromRemote (root : S3Location) (inventory : RemoteInventory) (work : String) :
    StorageRepairM File Working := do
  let working ← seedObjects root work inventory.objects ∅
  if working.keys.isEmpty then
    throw (.datasetUnreadable "remote inventory contains no parquet objects")
  else
    return working

def seedWorkingSet (context : StorageContext File) (source : DatasetLocation) (work : String)
    (scan : ScanReport) : StorageRepairM File (Option Working) :=
  match source with
  | .localDir location => do
      let working ← onDisk (seedWorkDir location.path work scan)
      return some working
  | .s3 root => do
      let listed ← onSource (mapErr storageErr
        (listRemoteInventory context.serde context.inventoryPages root))
      match listed with
      | none => return none
      | some inventory =>
        let working ← seedWorkDirFromRemote root inventory work
        return some working

/-! ## Execution -/

variable (tools : Toolkit File Schema Batch) (context : StorageContext File)

def ensureOutputAvailable (output : DatasetLocation) : StorageRepairM File Unit :=
  match output with
  | .localDir location => do
      if ← onDisk (fsCall (.exists location.path)) then throw (.outputExists location.path)
      else return ()
  | .s3 _ => do
      match ← onOutput (mapErr publicationErr (readCurrentVersion context.serde output)) with
      | some _ => throw (.outputExists output.displayUri)
      | none => return ()

def verifySourceFingerprint (source : DatasetLocation) (plan : RepairPlan) (scan : ScanReport) :
    LocalM File Unit := do
  let current ← computeFingerprintFromScan tools (locationRoot source) scan
  liftResult id (plan.datasetFingerprint.verifyAgainst current)

/-- Scan that the output is compared with: for a remote source the working directory, after the
operations have run. -/
def beforeScanForSource (source : DatasetLocation) (scan : ScanReport) (work : String) :
    LocalM File ScanReport :=
  match source with
  | .localDir _ => return scan
  | .s3 _ => scanDirectory tools work

/-- Checks before anything is written. -/
def checkStorageExecution (source output : DatasetLocation) (plan : RepairPlan)
    (scan : ScanReport) : StorageRepairM File Unit := do
  ensureOutputAvailable context output
  if locationsOverlap source output then
    throw (.sourceDestinationOverlap (source.displayUri ++ " overlaps " ++ output.displayUri))
  else
    onDisk (verifySourceFingerprint tools source plan scan)

structure StagedRepair where
  source : DatasetLocation
  staging : String
  work : String
  outcome : RepairOperationOutcome

variable [DecidableEq Schema]

/-- Repair a copy of the dataset in the staging directory. -/
def repairInStaging (executor : RepairExecutor) (plan : RepairPlan) (output : DatasetLocation)
    (scan : ScanReport) (executionId : String) :
    StorageRepairM File (Option StagedRepair) := do
  onDisk (liftResult id plan.validateVersion)
  let source ← onDisk (liftResult storageErr (context.parse plan.datasetRoot))
  checkStorageExecution tools context source output plan scan
  let staging := stagingPath (stagingParentPath context.tempDir source output) executionId
  let work := Path.join staging "work"
  onDisk (fsCall (.createDirAll work))
  match ← seedWorkingSet context source work scan with
  | none => return none
  | some working =>
    let outcome ← onDisk
      (runOrRetain tools executor plan (operationRoot source work) staging work working)
    return some ⟨source, staging, work, outcome⟩

variable (encode : ExecutionManifest → File)

/-- Verify the repaired working directory. -/
def verifyStaged (executor : RepairExecutor) (plan : RepairPlan) (scan : ScanReport)
    (executionId : String) (staged : StagedRepair) : LocalM File ExecutionManifest := do
  let before ← beforeScanForSource tools staged.source scan staged.work
  let after ← scanDirectory tools staged.work
  let verified ← verification tools executor plan before after
    (operationRoot staged.source staged.work) staged.work
  let outputFp ← computeFingerprintFromScan tools staged.work after
  return executionManifest plan executionId outputFp staged.outcome.audit verified

/-- Make the working directory available at the output location. -/
def publishStaged (output : DatasetLocation) (runId work : String)
    (manifest : ExecutionManifest) : StorageRepairM File (String × String) :=
  match output with
  | .localDir location => do
      onDisk (fsCall (.createDirAll location.path))
      onDisk (copyWorkToOutput work location.path)
      let manifestPath := Path.join location.path EXECUTION_MANIFEST_FILE
      onDisk (fsCall (.write manifestPath (encode manifest)))
      return (location.path, manifestPath)
  | .s3 _ => do
      let names ← onDisk (fsCall (.walkFiles work))
      let files ← onDisk (readFiles work names)
      onOutput (publishWorkDir context.serde context.capabilities output
        (files.map fun file => ⟨file.1, file.2⟩) runId (encode manifest))

/-- `execute_storage` together with the manifest that it publishes. -/
def executeStorageRecorded (executor : RepairExecutor) (plan : RepairPlan)
    (output : DatasetLocation) (scan : ScanReport) (runId executionId : String) :
    StorageRepairM File (Option (ExecutionReport × ExecutionManifest)) := do
  match ← repairInStaging tools context executor plan output scan executionId with
  | none => return none
  | some staged =>
    let manifest ← onDisk (verifyStaged tools executor plan scan executionId staged)
    let (outputPath, manifestPath) ←
      publishStaged context encode output runId staged.work manifest
    onDisk (fsTry (.removeDirAll staged.staging))
    return some (executionReport plan executionId staged.outcome staged.staging outputPath
      manifestPath, manifest)

/-- `RepairExecutor::execute_storage`. -/
def executeStorage (executor : RepairExecutor) (plan : RepairPlan) (output : DatasetLocation)
    (scan : ScanReport) (runId executionId : String) :
    StorageRepairM File (Option ExecutionReport) := do
  let recorded ← executeStorageRecorded tools context encode executor plan output scan runId
    executionId
  return recorded.map (·.1)

end Parqonaut.Repair
