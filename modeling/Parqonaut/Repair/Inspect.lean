import Parqonaut.Repair.Plan
import Parqonaut.Rust.Disk

/-!
# Inspecting a dataset

The scan reports, the inventory of `inventory.rs`, the fingerprint of `fingerprint.rs` and the
diagnosis of `diagnose.rs`. Parquet files, the scan engine and the digest enter as functions of a
toolkit. A finding is reduced to its code, the only part that verification reads.
-/

namespace Parqonaut.Repair

open Effects Rust Fallible Path

variable {File Schema Batch : Type}

/-! ## Scan reports -/

inductive DataFormat where
  | parquet
  | csv
  | json
  | ndjson
  | unknown
  deriving DecidableEq

structure FieldDefinition where
  name : String
  logicalType : String
  nullable : Bool
  deriving DecidableEq

/-- Footer metadata of a parquet file that the inventory uses. -/
structure ParquetInspection where
  numRows : Int
  numRowGroups : Nat
  rowGroupCompressedSizes : List Int
  fields : List FieldDefinition
  compressionCodecs : List String
  statisticsPresent : Bool
  deriving DecidableEq

/-- A scanned file. `inspectionHints` is the inspection cached in the report, for
files that are not on the local disk. -/
structure AssetRecord where
  path : String
  format : DataFormat
  sizeBytes : Nat
  inspectionHints : Option ParquetInspection
  deriving DecidableEq

structure ScanReport where
  assets : List AssetRecord
  findings : List String
  deriving DecidableEq

def FORMAT_PARQUET_READ_FAILED : String := "system.format.parquet_read_failed"
def REPAIR_EXCESSIVE_SMALL_FILES : String := "system.repair.excessive_small_files"
def REPAIR_INEFFICIENT_ROW_GROUPS : String := "system.repair.inefficient_row_groups"
def REPAIR_INCONSISTENT_COMPRESSION : String := "system.repair.inconsistent_compression"
def REPAIR_SCHEMA_DRIFT : String := "system.repair.schema_drift"
def REPAIR_MISSING_STATISTICS : String := "system.repair.missing_statistics"
def REPAIR_OVERSIZED_FILE : String := "system.repair.oversized_file"
def REPAIR_SCHEMA_CONFLICT : String := "system.repair.schema_conflict"

/-- How a parquet file is written. -/
structure WriterOptions where
  compression : Option String
  rowGroupSizeMb : Option Nat
  rebuildStats : Bool

/-- What the executor uses of the parquet library, the scan engine and the digest. `created` is a
new, empty file. -/
structure Toolkit (File Schema Batch : Type) where
  created : File
  readBatches : File → Except String (Schema × List Batch)
  writeBatches : WriterOptions → Schema → List Batch → Except String File
  batchBytes : Batch → Nat
  cast : (column targetType : String) → File → Except String File
  rename : (source target : String) → File → Except String File
  inspect : File → Except String ParquetInspection
  scan : (root : String) → List (String × File) → Except String ScanReport
  digest : List FingerprintEntry → String

/-- Simplest parquet library: a file is the list of its rows, in batches of one. -/
def Toolkit.ofRows {Row : Type} (pack : List Row → File) (rows : File → List Row) :
    Toolkit File Unit Row where
  created := pack []
  readBatches := fun file => .ok ((), rows file)
  writeBatches := fun _ _ batches => .ok (pack batches)
  batchBytes := fun _ => 1
  cast := fun _ _ file => .ok file
  rename := fun _ _ file => .ok file
  inspect := fun file => .ok ⟨(rows file).length, 1, [], [], [], true⟩
  scan := fun root files => .ok {
    assets := files.map fun file => ⟨join root file.1, .parquet, (rows file.2).length, none⟩
    findings := [] }
  digest := fun entries => String.intercalate "," (entries.map (·.relativePath))

/-- Code that works on the local disk. -/
abbrev LocalM (File : Type) : Type → Type :=
  Fallible (FsRequest File) FsRequest.Answer RepairError

/-- A file system call whose error is passed on. -/
def fsCall (request : FsRequest File) : LocalM File request.Result := do
  match ← Fallible.request request with
  | .ok result => return result
  | .error error => throw (.io error.display)

/-- A file system call whose error is dropped. -/
def fsTry (request : FsRequest File) : LocalM File Unit := do
  let _ ← Fallible.request request
  return ()

def liftResult {α ε : Type} (convert : ε → RepairError) : Except ε α → LocalM File α
  | .ok value => return value
  | .error error => throw (convert error)

section

variable {truncated : File} {disk after : Disk File} {request : FsRequest File}

variable {result : request.Result}

lemma serve_of_returns_fsCall
    (returns : Returns (Disk.service truncated) (fsCall request) disk result after) :
    Disk.serve truncated request disk = (.ok result, after) :=
  Disk.serve_of_returns returns

lemma returns_fsCall (served : Disk.serve truncated request disk = (.ok result, after)) :
    Returns (Disk.service truncated) (fsCall request) disk result after :=
  returns_request_bind.mpr ⟨.ok result, after, .inl served.symm, returns_value⟩

lemma value_of_returns_liftResult {α ε State : Type} {convert : ε → RepairError}
    {service : Service (FsRequest File) FsRequest.Answer State} {state mid : State}
    {result : Except ε α} {value : α}
    (returns : Returns service (liftResult convert result) state value mid) :
    result = .ok value ∧ mid = state := by
  cases result with
  | ok =>
    cases returns.of_pure
    exact ⟨rfl, rfl⟩
  | error => cases returns.of_throw

variable {path : String}

lemma fileAt_of_returns_read {contents : File}
    (returns : Returns (Disk.service truncated) (fsCall (.read path)) disk contents
      after) : disk.fileAt path = some contents ∧ after = disk :=
  Disk.serve_read_eq_ok.mp (serve_of_returns_fsCall returns)

lemma returns_isFile {found : Bool}
    (returns : Returns (Disk.service truncated) (fsCall (.isFile path)) disk found
      after) : found = (disk.fileAt path).isSome ∧ after = disk := by
  cases serve_of_returns_fsCall returns
  exact ⟨rfl, rfl⟩

end

/-! ## Inventory -/

structure ParquetFileMeta where
  path : String
  sizeBytes : Nat
  numRows : Int
  numRowGroups : Nat
  medianRowGroupBytes : Nat
  compressionCodecs : List String
  schemaSignature : String
  fields : List FieldDefinition
  hasStatistics : Bool
  deriving DecidableEq

/-- `schemaSignatures` are the distinct signatures of the files. -/
structure DatasetInventory where
  root : String
  parquetFiles : List ParquetFileMeta
  totalRows : Int
  schemaSignatures : List String

/-- A set of texts, as its sorted list. -/
def sortedSet (texts : List String) : List String :=
  (texts.insertionSort (· ≤ ·)).dedup

def medianU64 (values : List Nat) : Nat :=
  (values.insertionSort (· ≤ ·)).getD (values.length / 2) 0

def parquetSchemaSignature (inspection : ParquetInspection) : String :=
  String.intercalate "\x1f" ((inspection.fields.map fun field =>
    field.name ++ "=" ++ field.logicalType).insertionSort (· ≤ ·))

variable (tools : Toolkit File Schema Batch) (root : String)

def inspectParquetFile (path : String) : LocalM File ParquetInspection := do
  match ← Fallible.request (.read path) with
  | .error error => throw (.datasetUnreadable (path ++ ": " ++ error.display))
  | .ok contents =>
    match tools.inspect contents with
    | .ok inspection => return inspection
    | .error message => throw (.datasetUnreadable (path ++ ": " ++ message))

/-- Footer of an asset: from the disk, else from the scan report. -/
def inspectAsset (asset : AssetRecord) : LocalM File ParquetInspection := do
  if ← fsCall (.isFile asset.path) then
    inspectParquetFile tools asset.path
  else
    match asset.inspectionHints with
    | some inspection => return inspection
    | none =>
      if Str.startsWith asset.path "s3://" then
        throw (.datasetUnreadable
          (asset.path ++ ": remote Parquet inspection missing from scan report"))
      else
        inspectParquetFile tools asset.path

def fileMeta (asset : AssetRecord) (inspection : ParquetInspection) : ParquetFileMeta where
  path := asset.path
  sizeBytes := asset.sizeBytes
  numRows := inspection.numRows
  numRowGroups := inspection.numRowGroups
  medianRowGroupBytes := medianU64 (inspection.rowGroupCompressedSizes.map Int.toNat)
  compressionCodecs := inspection.compressionCodecs
  schemaSignature := parquetSchemaSignature inspection
  fields := inspection.fields
  hasStatistics := inspection.statisticsPresent

def inspectAssets : List AssetRecord → LocalM File (List ParquetFileMeta)
  | [] => return []
  | asset :: rest => do
      let inspection ← inspectAsset tools asset
      let files ← inspectAssets rest
      return fileMeta asset inspection :: files

/-- Parquet assets of a report, sorted by path. -/
def parquetAssets (report : ScanReport) : List AssetRecord :=
  (report.assets.filter fun asset => asset.format = .parquet).insertionSort
    fun a b => components a.path ≤ components b.path

def fromScanReport (report : ScanReport) : LocalM File DatasetInventory := do
  let files ← inspectAssets tools (parquetAssets report)
  return {
    root := root
    parquetFiles := files
    totalRows := (files.map (·.numRows)).sum
    schemaSignatures := sortedSet (files.map (·.schemaSignature)) }

/-! ## Fingerprint -/

def FINGERPRINT_VERSION : Nat := 1

/-- Part of `path` below `root`, or `path` itself. -/
def relativize (path : String) : String :=
  match stripPrefix path root with
  | some rest => Str.trimStartMatches '/' rest
  | none => path

/-- A file below the root is known by its relative name. -/
lemma relativize_join {root rel : String} (plain : IsPlain rel) :
    relativize root (join root rel) = rel := by
  have parts : components (join root rel) = _ := components_join plain
  have below : startsWith (join root rel) root = true := by
    rw [startsWith, parts, List.isPrefixOf_iff_prefix]
    exact List.prefix_append _ _
  have rest : stripPrefix (join root rel) root = some rel := by
    rw [stripPrefix, if_pos below, parts, List.drop_left, Option.some.injEq]
    apply Str.eq_of_toList_eq
    rw [String.toList_intercalate, Str.split, List.map_map]
    simp [Function.comp_def, List.intercalate_splitOn]
  have open_ := not_startsWith_slash_of_isPlain plain
  rw [relativize, rest]
  dsimp only
  cases chars : rel.toList with
  | nil => simp [Str.trimStartMatches, Str.eq_of_toList_eq (s := rel) (t := "") chars]
  | cons =>
    apply Str.trimStartMatches_of_head chars
    rintro rfl
    simp [Str.startsWith, chars] at open_

/-- Detect source/destination overlap (repair must not write into source tree). -/
def pathsOverlap (source target : String) : Bool :=
  startsWith source target || startsWith target source

def computeDatasetFingerprint (inventory : DatasetInventory) : DatasetFingerprint :=
  let entries := (inventory.parquetFiles.map fun file => {
      relativePath := relativize root file.path
      sizeBytes := file.sizeBytes
      numRows := file.numRows
      numRowGroups := file.numRowGroups
      schemaSignature := file.schemaSignature
      compressionCodecs := file.compressionCodecs : FingerprintEntry }).insertionSort
    fun a b => a.relativePath ≤ b.relativePath
  ⟨FINGERPRINT_VERSION, root, entries, tools.digest entries⟩

def computeFingerprintFromScan (report : ScanReport) : LocalM File DatasetFingerprint := do
  let inventory ← fromScanReport tools root report
  return computeDatasetFingerprint tools root inventory

/-! ## Diagnosis -/

structure DiagnosisReport where
  findings : List String
  totalRows : Int
  parquetFileCount : Nat

/-- Row groups that are far too small or far too large, or a shard with a single one. -/
def isInefficient (policy : RepairPolicy) (fileCount : Nat) (file : ParquetFileMeta) : Bool :=
  (8 ≤ file.numRowGroups && file.medianRowGroupBytes < policy.targetRowGroupBytes / 64) ||
  (policy.targetRowGroupBytes * 2 < file.medianRowGroupBytes && file.numRowGroups ≤ 2 &&
    1000 < file.numRows) ||
  (policy.minFilesForMerge ≤ fileCount && file.numRowGroups = 1 &&
    file.sizeBytes < policy.smallFileThresholdBytes && 0 < file.numRows && file.numRows ≤ 5000)

/-- Codes that the diagnosis adds to those of the scan. -/
def repairFindings (policy : RepairPolicy) (inventory : DatasetInventory) : List String :=
  let files := inventory.parquetFiles
  let small := files.filter fun file => file.sizeBytes < policy.smallFileThresholdBytes
  (if policy.minFilesForMerge ≤ small.length then [REPAIR_EXCESSIVE_SMALL_FILES] else []) ++
  (if files.any (isInefficient policy files.length) then [REPAIR_INEFFICIENT_ROW_GROUPS] else []) ++
  (if policy.minCodecsForInconsistency ≤
      (sortedSet (files.flatMap (·.compressionCodecs))).length then
    [REPAIR_INCONSISTENT_COMPRESSION] else []) ++
  (if 1 < inventory.schemaSignatures.length then [REPAIR_SCHEMA_DRIFT] else [])

/-- Enriches a scan report with repair-oriented findings. -/
def diagnose (scan : ScanReport) (policy : RepairPolicy) : LocalM File DiagnosisReport := do
  let inventory ← fromScanReport tools root scan
  if inventory.parquetFiles.isEmpty then
    return ⟨scan.findings, 0, 0⟩
  else
    return ⟨(scan.findings ++ repairFindings policy inventory).insertionSort (· ≤ ·),
      inventory.totalRows, inventory.parquetFiles.length⟩

/-!
# Verifying a repair

`verify_repair` and `scan_directory` of `verify.rs` and the manifest of
`manifest.rs`. A failed verification is a value of the report, not an error.
-/

inductive VerificationOutcome where
  | verified
  | verifiedWithWarnings
  | failed
  deriving DecidableEq

structure InvariantResult where
  name : String
  passed : Bool
  detail : String

structure VerificationReport where
  invariantResults : List InvariantResult
  resolvedFindingCodes : List String
  remainingFindingCodes : List String
  newFindingCodes : List String
  blockedFindingCodes : List String
  outcome : VerificationOutcome
  manifestPlanId : Option String
  fingerprintMatch : Option Bool

def MANIFEST_VERSION : Nat := 1

/-- Machine-readable audit receipt for a repair execution. -/
structure ExecutionManifest where
  manifestVersion : Nat
  planId : String
  executionId : String
  parqonautVersion : String
  sourceFingerprint : DatasetFingerprint
  outputFingerprint : DatasetFingerprint
  policyFingerprint : String
  operations : List OperationAuditRecord
  verification : Option VerificationReport

def repairCodes : List String :=
  [REPAIR_EXCESSIVE_SMALL_FILES, REPAIR_INEFFICIENT_ROW_GROUPS, REPAIR_INCONSISTENT_COMPRESSION,
    REPAIR_SCHEMA_DRIFT, REPAIR_MISSING_STATISTICS, REPAIR_OVERSIZED_FILE,
    REPAIR_SCHEMA_CONFLICT]

def rowCountInvariant (before after : DatasetInventory) : InvariantResult where
  name := "row_count"
  passed := before.totalRows = after.totalRows
  detail := "before=" ++ toString before.totalRows ++ " after=" ++ toString after.totalRows

def schemaInvariant (before after : DatasetInventory) : InvariantResult where
  name := "schema_preservation"
  passed := after.schemaSignatures.length ≤ before.schemaSignatures.length ||
    after.schemaSignatures.length ≤ 1
  detail := "before_signatures=" ++ toString before.schemaSignatures.length ++
    " after_signatures=" ++ toString after.schemaSignatures.length

def readabilityInvariant (after : DatasetInventory) : InvariantResult where
  name := "output_readability"
  passed := !after.parquetFiles.isEmpty
  detail := "after_files=" ++ toString after.parquetFiles.length

/-- Invariant that is checked only against a manifest. -/
def manifestInvariant (tools : Toolkit File Schema Batch) (afterRoot : String)
    (after : ScanReport) : Option ExecutionManifest → LocalM File (List InvariantResult)
  | none => return []
  | some manifest => do
      let current ← computeFingerprintFromScan tools afterRoot after
      let recorded := manifest.outputFingerprint.digest
      return [⟨"manifest_fingerprint", current.digest = recorded,
        "recorded=" ++ recorded ++ " current=" ++ current.digest⟩]

/-- Codes that stand for what could not be repaired. -/
def blockedCodes (afterSet : List String) : Option ExecutionManifest → List String
  | none => afterSet.filter (· = REPAIR_SCHEMA_CONFLICT)
  | some manifest =>
    sortedSet (afterSet.filter (· = REPAIR_SCHEMA_CONFLICT) ++
      (manifest.operations.filter fun op => op.safety = .blocked && !op.executed).map
        fun op => "blocked:" ++ op.operationId)

/-- Findings of the output that the source did not have. -/
def newFindings (beforeSet afterSet : List String) : List String :=
  afterSet.filter fun code => !beforeSet.contains code

def outcomeOf (rowOk hasRegression : Bool) (remaining blocked new : List String) :
    VerificationOutcome :=
  if !rowOk || hasRegression then .failed
  else if !remaining.isEmpty || !blocked.isEmpty || !new.isEmpty then .verifiedWithWarnings
  else .verified

/-- Second comparison with the recorded fingerprint; an error counts as no match. -/
def fingerprintMatch (tools : Toolkit File Schema Batch) (afterRoot : String)
    (after : ScanReport) : Option ExecutionManifest → LocalM File (Option Bool)
  | none => return none
  | some manifest => do
      match ← Fallible.attempt (computeFingerprintFromScan tools afterRoot after) with
      | .ok current => return some (current.digest = manifest.outputFingerprint.digest)
      | .error _ => return some false

/-- Everything that follows from the inventories and the diagnoses. -/
def verificationReport (beforeInv afterInv : DatasetInventory)
    (manifestResults : List InvariantResult) (beforeDx afterDx : DiagnosisReport)
    (manifest : Option ExecutionManifest) (matching : Option Bool) : VerificationReport :=
  let beforeSet := sortedSet beforeDx.findings
  let afterSet := sortedSet afterDx.findings
  let remaining := afterSet.filter fun code =>
    beforeSet.contains code && repairCodes.contains code
  let new := newFindings beforeSet afterSet
  let blocked := blockedCodes afterSet manifest
  { invariantResults :=
      [rowCountInvariant beforeInv afterInv, schemaInvariant beforeInv afterInv,
        readabilityInvariant afterInv] ++ manifestResults
    resolvedFindingCodes := beforeSet.filter fun code =>
      !afterSet.contains code && repairCodes.contains code
    remainingFindingCodes := remaining
    newFindingCodes := new
    blockedFindingCodes := blocked
    outcome := outcomeOf (beforeInv.totalRows = afterInv.totalRows)
      (new.contains FORMAT_PARQUET_READ_FAILED) remaining blocked new
    manifestPlanId := manifest.map (·.planId)
    fingerprintMatch := matching }

def verifyRepair (tools : Toolkit File Schema Batch) (before after : ScanReport)
    (beforeRoot afterRoot : String) (policy : RepairPolicy)
    (manifest : Option ExecutionManifest) : LocalM File VerificationReport := do
  let beforeInv ← fromScanReport tools beforeRoot before
  let afterInv ← fromScanReport tools afterRoot after
  let manifestResults ← manifestInvariant tools afterRoot after manifest
  let beforeDx ← diagnose tools beforeRoot before policy
  let afterDx ← diagnose tools afterRoot after policy
  let matching ← fingerprintMatch tools afterRoot after manifest
  return verificationReport beforeInv afterInv manifestResults beforeDx afterDx manifest matching

/-! ## Scanning -/

/-- Read the listed files below a directory. -/
def readFiles (root : String) : List String → LocalM File (List (String × File))
  | [] => return []
  | rel :: rest => do
      let contents ← fsCall (.read (Path.join root rel))
      let others ← readFiles root rest
      return (rel, contents) :: others

/-- Scan a directory: the engine sees every file below it. -/
def scanDirectory (tools : Toolkit File Schema Batch) (path : String) :
    LocalM File ScanReport := do
  let names ← fsCall (.walkFiles path)
  let files ← readFiles path names
  liftResult .scanFailed (tools.scan path files)

/-!
# The transform engine

`merge_parquet_files`, `split_parquet_file` and the single-file rewrites of
`merge.rs`, `cast.rs` and `rename.rs`, as file system programs over the batches of
the parquet files.
-/

inductive ParqknifeError where
  | io (message : String)
  | parquet (message : String)
  | arrow (message : String)
  | columnar (message : String)
  | invalidInput (message : String)
  | schemaMismatch (message : String)
  | filterError (message : String)
  | specError (message : String)
  | s3Error (message : String)
  | unsupported (message : String)
  deriving DecidableEq

def ParqknifeError.display : ParqknifeError → String
  | .io message => "I/O error: " ++ message
  | .parquet message => "Parquet error: " ++ message
  | .arrow message => "Arrow error: " ++ message
  | .columnar message => "Columnar error: " ++ message
  | .invalidInput message => "Invalid input: " ++ message
  | .schemaMismatch message => "Schema mismatch: " ++ message
  | .filterError message => "Filter expression error: " ++ message
  | .specError message => "Spec parsing error: " ++ message
  | .s3Error message => "S3 error: " ++ message
  | .unsupported message => "Unsupported operation: " ++ message

abbrev TransformM (File : Type) : Type → Type :=
  Fallible (FsRequest File) FsRequest.Answer ParqknifeError

def transformCall (request : FsRequest File) : TransformM File request.Result := do
  match ← Fallible.request request with
  | .ok result => return result
  | .error error => throw (.io error.display)

def parquetResult {α : Type} : Except String α → TransformM File α
  | .ok value => return value
  | .error message => throw (.parquet message)

variable {truncated : File} {disk after : Disk File}

lemma serve_of_returns_transformCall {request : FsRequest File} {result : request.Result}
    (returns : Fallible.Returns (Disk.service truncated) (transformCall request) disk result
      after) :
    Disk.serve truncated request disk = (.ok result, after) :=
  Disk.serve_of_returns returns

lemma value_of_returns_parquetResult {α : Type} {result : Except String α} {value : α}
    (returns : Fallible.Returns (Disk.service truncated) (parquetResult result) disk value
      after) : result = .ok value ∧ after = disk := by
  cases result with
  | ok =>
    cases returns.of_pure
    exact ⟨rfl, rfl⟩
  | error => cases returns.of_throw

/-! ## Rewriting one file -/

/-- `create_dir_all` of the directory that is to hold the output. -/
def createOutputDir (output : String) : TransformM File Unit :=
  match Path.parent output with
  | some parent => transformCall (.createDirAll parent)
  | none => return ()

/-- Read a file, convert its contents and write the result to another path. -/
def transformFile (convert : File → Except String File) (input output : String) :
    TransformM File Unit := do
  let contents ← transformCall (.read input)
  let result ← parquetResult (convert contents)
  createOutputDir output
  transformCall (.write output result)

/-- Contents of a file, written again. -/
def rewritten (tools : Toolkit File Schema Batch) (options : WriterOptions) (contents : File) :
    Except String File :=
  match tools.readBatches contents with
  | .ok (schema, batches) => tools.writeBatches options schema batches
  | .error message => .error message

/-- Rewrite a single parquet file with optional compression and row-group sizing. -/
def rewriteParquetFile (tools : Toolkit File Schema Batch) (options : WriterOptions)
    (input output : String) : TransformM File Unit :=
  transformFile (rewritten tools options) input output

def rewriteParquetWithCast (tools : Toolkit File Schema Batch) (column targetType : String)
    (input output : String) : TransformM File Unit :=
  transformFile (tools.cast column targetType) input output

def rewriteParquetWithRename (tools : Toolkit File Schema Batch) (source target : String)
    (input output : String) : TransformM File Unit :=
  transformFile (tools.rename source target) input output

/-! ## Merging -/

/-- Writer of the current part: its path and the batches written so far. -/
structure OpenWriter (Schema Batch : Type) where
  path : String
  schema : Schema
  batches : List Batch

structure MergeState (Schema Batch : Type) where
  outputs : List String
  currentBytes : Nat
  writer : Option (OpenWriter Schema Batch)
  schema : Option Schema

def MergeState.start : MergeState Schema Batch := ⟨[], 0, none, none⟩

/-- What a merge writes: where, under which names and how. -/
structure MergeTarget where
  outputDir : String
  basename : String
  targetBytes : Nat
  options : WriterOptions

/-- `{output_basename}-part-{part_idx:04}.parquet` in the output directory. -/
def MergeTarget.partPath (target : MergeTarget) (idx : Nat) : String :=
  Path.join target.outputDir (target.basename ++ "-part-" ++ Str.zeroPadded 4 idx ++ ".parquet")

variable (tools : Toolkit File Schema Batch) (target : MergeTarget)

def closeWriter : Option (OpenWriter Schema Batch) → TransformM File Unit
  | none => return ()
  | some writer => do
      let contents ← parquetResult (tools.writeBatches target.options writer.schema writer.batches)
      transformCall (.write writer.path contents)

variable (fileSchema : Schema) (state : MergeState Schema Batch)

/-- Close the current part and create the next one. -/
def nextPart : TransformM File (MergeState Schema Batch) := do
  closeWriter tools target state.writer
  let path := target.partPath state.outputs.length
  transformCall (.write path tools.created)
  return { state with
    outputs := state.outputs ++ [path]
    currentBytes := 0
    writer := some ⟨path, fileSchema, []⟩ }

/-- Append a batch to the current part. -/
def MergeState.append (batch : Batch) (bytes : Nat) : MergeState Schema Batch where
  outputs := state.outputs
  currentBytes := state.currentBytes + bytes
  writer := state.writer.map fun writer => { writer with batches := writer.batches ++ [batch] }
  schema := state.schema

/-- Part that the next batch goes to: a new one when there is none yet or the
current one is full. -/
def currentPart (bytes : Nat) : TransformM File (MergeState Schema Batch) :=
  if state.writer.isNone ||
      (target.targetBytes < state.currentBytes + bytes && 0 < state.currentBytes) then
    nextPart tools target fileSchema state
  else return state

def mergeBatch (batch : Batch) : TransformM File (MergeState Schema Batch) := do
  let current ← currentPart tools target fileSchema state (tools.batchBytes batch)
  return current.append batch (tools.batchBytes batch)

def mergeBatches : List Batch → MergeState Schema Batch → TransformM File (MergeState Schema Batch)
  | [], state => return state
  | batch :: rest, state => do
      let next ← mergeBatch tools target fileSchema state batch
      mergeBatches rest next

variable [DecidableEq Schema]

/-- All inputs have the schema of the first one. -/
def checkSchema (input : String) (fileSchema : Schema) (state : MergeState Schema Batch) :
    TransformM File (MergeState Schema Batch) :=
  match state.schema with
  | none => return { state with schema := some fileSchema }
  | some schema =>
    if schema = fileSchema then return state
    else throw (.invalidInput ("schema mismatch during merge at " ++ input))

def mergeInputs : List String → MergeState Schema Batch → TransformM File (MergeState Schema Batch)
  | [], state => return state
  | input :: rest, state => do
      let contents ← transformCall (.read input)
      let (fileSchema, batches) ← parquetResult (tools.readBatches contents)
      let checked ← checkSchema input fileSchema state
      let next ← mergeBatches tools target fileSchema batches checked
      mergeInputs rest next

/-- Merge sorted parquet inputs into outputs capped at the target size, and return their paths. -/
def mergeParquetFiles (inputs : List String) : TransformM File (List String) := do
  if inputs.isEmpty then
    throw (.invalidInput "no inputs for merge")
  else
    transformCall (.createDirAll target.outputDir)
    let final ← mergeInputs tools target (inputs.insertionSort (· ≤ ·)) .start
    closeWriter tools target final.writer
    return final.outputs

/-- Split a single parquet file into multiple parts capped at the target size. -/
def splitParquetFile (input : String) : TransformM File (List String) :=
  mergeParquetFiles tools target [input]

end Parqonaut.Repair
