import Parqonaut.Repair.Inspect
import Parqonaut.Schema.Compatibility

/-!
# Generating a repair plan

`generate_plan` of `plan.rs` with the rules of `rules.rs` and `schema_rules.rs` and the
dependencies of `deps.rs`. An operation id is made of a kind and a digest of some content, which
is modelled as data; the digest is a parameter.
-/

namespace Parqonaut.Repair

open Effects Rust Schema
open Std (TreeMap)

/-! ## Policies and ids -/

def RepairPolicy.mergeTargetBytes (policy : RepairPolicy) : Nat :=
  policy.mergeTargetMb * 1024 * 1024

/-- File layout policy for split operations. -/
structure FilePolicy where
  maxFileMb : Nat
  splitTargetMb : Nat

namespace FilePolicy

/-- `FilePolicy::default`. -/
def standard : FilePolicy := ⟨1024, 512⟩

def maxFileBytes (policy : FilePolicy) : Nat := policy.maxFileMb * 1024 * 1024

def splitTargetBytes (policy : FilePolicy) : Nat := policy.splitTargetMb * 1024 * 1024

end FilePolicy

/-- Combined effective policy bundle recorded in plans. The part for continuous integration is
not read by the planner. -/
structure EffectivePolicy where
  repair : RepairPolicy
  schema : SchemaPolicy
  files : FilePolicy

/-- `EffectivePolicy::default`. -/
def EffectivePolicy.standard : EffectivePolicy := ⟨.standard, .standard, .standard⟩

/-- The JSON values that ids are made of. -/
inductive IdContent where
  | finding (code : String) (action : RepairAction)
  | paths (paths : List String)
  | file (path : String) (size : Nat)
  | rename (source target : String)
  | field (field : String) (action : RepairAction)
  | plan (fingerprint policyFingerprint : String)
      (operations : List (String × RepairAction × RepairSafety))
      (targetSchema : Option (List FieldDescriptor))

/-- Digests of the planner, and `str::to_uppercase`. -/
structure Digests where
  idDigest : (kind : String) → IdContent → String
  policyDigest : EffectivePolicy → String
  toUppercase : String → String

/-- Digests that tell nothing apart. -/
def Digests.constant : Digests := ⟨fun _ _ => "0", fun _ => "0", id⟩

/-- Derives a stable id from its kind and content. -/
def stableHexId (digests : Digests) (kind : String) (content : IdContent) : String :=
  kind ++ "-" ++ digests.idDigest kind content

structure ProposedOperation where
  operationId : String
  safety : RepairSafety
  action : RepairAction
  deriving DecidableEq

/-! ## Rules for the layout of files -/

def METADATA_ROW_GROUP_SUSPICIOUSLY_SMALL : String :=
  "system.metadata.row_group_suspiciously_small"

namespace DatasetInventory

def smallFiles (inventory : DatasetInventory) (thresholdBytes : Nat) : List ParquetFileMeta :=
  inventory.parquetFiles.filter fun file => file.sizeBytes < thresholdBytes

/-- Structural schema key including nullability. -/
def structuralSchemaKey (fields : List FieldDefinition) : String :=
  String.intercalate "\x1f" ((fields.map fun field =>
    field.name ++ ":" ++ (Str.firstWord field.logicalType).getD "UNKNOWN" ++ ":" ++
      toString field.nullable).insertionSort (· ≤ ·))

end DatasetInventory

/-- How often each schema key occurs. -/
def keyCounts (files : List ParquetFileMeta) : TreeMap String Nat :=
  files.foldl (fun counts file => counts.alter
    (DatasetInventory.structuralSchemaKey file.fields) fun count => some (count.getD 0 + 1)) ∅

/-- `max_by_key` on the counts: the last entry with the greatest one. -/
def dominantKey (files : List ParquetFileMeta) : Option String :=
  ((keyCounts files).toList.foldl (fun best entry =>
    match best with
    | none => some entry
    | some found => if found.2 ≤ entry.2 then some entry else some found) none).map Prod.fst

section

variable (digests : Digests) (root : String) (inventory : DatasetInventory)
  (policy : EffectivePolicy)

/-- Paths of all files, relative to the root. -/
def allPaths : List String :=
  inventory.parquetFiles.map fun file => relativize root file.path

/-- Files that a merge would combine: small ones of the most frequent schema. -/
def mergeCandidates : List String :=
  let small := inventory.smallFiles policy.repair.smallFileThresholdBytes
  ((small.filter fun file => file.sizeBytes ≤ policy.files.maxFileBytes).filter fun file =>
    match dominantKey small with
    | none => true
    | some key => DatasetInventory.structuralSchemaKey file.fields = key).map
      fun file => relativize root file.path

/-- There are enough small files, and enough of them can be merged. -/
def mergeProposed : Bool :=
  policy.repair.minFilesForMerge ≤
      (inventory.smallFiles policy.repair.smallFileThresholdBytes).length &&
    policy.repair.minFilesForMerge ≤ (mergeCandidates root inventory policy).length

def buildOp (kind code : String) (safety : RepairSafety) (action : RepairAction) :
    ProposedOperation :=
  ⟨stableHexId digests kind (.finding code action), safety, action⟩

def mergeAction : RepairAction :=
  .mergeSmallFiles policy.repair.mergeTargetBytes (mergeCandidates root inventory policy)

def resizeAction : RepairAction :=
  .resizeRowGroups policy.repair.targetRowGroupBytes (allPaths root inventory)

def recompressAction : RepairAction :=
  .recompress policy.repair.defaultCompression (allPaths root inventory)

/-- Rule for one finding of the diagnosis. -/
def ruleFor (code : String) : Option ProposedOperation :=
  if code = REPAIR_EXCESSIVE_SMALL_FILES then
    if mergeProposed root inventory policy then
      some (buildOp digests "merge" code .safe (mergeAction root inventory policy))
    else none
  else if code = REPAIR_INEFFICIENT_ROW_GROUPS then
    some (buildOp digests "rowgroups" code .safe (resizeAction root inventory policy))
  else if code = REPAIR_INCONSISTENT_COMPRESSION then
    some (buildOp digests "compress" code .safe (recompressAction root inventory policy))
  else none

/-- Files without column statistics. -/
def statisticsOps : List ProposedOperation :=
  let files := inventory.parquetFiles.filter fun file => !file.hasStatistics
  let paths := files.map fun file => relativize root file.path
  if files.isEmpty then []
  else [⟨stableHexId digests "stats" (.paths paths), .safe, .rebuildStatistics paths⟩]

/-- Files that are larger than the policy allows. -/
def oversizedFiles : List ParquetFileMeta :=
  inventory.parquetFiles.filter fun file => policy.files.maxFileBytes < file.sizeBytes

def splitOps : List ProposedOperation :=
  (oversizedFiles inventory policy).map fun file =>
    ⟨stableHexId digests "split" (.file (relativize root file.path) file.sizeBytes), .safe,
      .splitLargeFile policy.files.splitTargetBytes (relativize root file.path)⟩

def ProposedOperation.isResize (op : ProposedOperation) : Bool :=
  match op.action with
  | .resizeRowGroups .. => true
  | _ => false

/-- One operation for each finding of the scan about tiny row groups. -/
def scanOps (scan : ScanReport) : List ProposedOperation :=
  (scan.findings.filter (· = METADATA_ROW_GROUP_SUSPICIOUSLY_SMALL)).map fun code =>
    buildOp digests "rowgroups-scan" code .safe (resizeAction root inventory policy)

def applyRepairRules (scan : ScanReport) (diagnosisFindings : List String) :
    List ProposedOperation :=
  let ops := diagnosisFindings.filterMap (ruleFor digests root inventory policy) ++
    statisticsOps digests root inventory ++ splitOps digests root inventory policy
  let ops := if ops.any (·.isResize) then ops
    else ops ++ scanOps digests root inventory policy scan
  ops.insertionSort fun a b => a.operationId ≤ b.operationId

end

/-! ## Rules for schemas -/

def schemaSignatureHasColumn (signature column : String) : Bool :=
  (Str.split signature '\x1f').any fun part => Str.startsWith part (column ++ "=")

/-- The text of a field shows a column: at its start or behind a separator. -/
def FieldDefinition.shows (field : FieldDefinition) (column : String) : Bool :=
  let text := field.name ++ "=" ++ field.logicalType
  Str.startsWith text (column ++ "=") || Str.contains text ("\x1f" ++ (column ++ "="))

lemma hasColumn_signature (inspection : ParquetInspection) (column : String) :
    schemaSignatureHasColumn (parquetSchemaSignature inspection) column = true ↔
      '\x1f' ∉ column.toList ∧ ∃ field ∈ inspection.fields, field.shows column = true := by
  have empty : Str.startsWith "" (column ++ "=") = false := by
    simp [Str.startsWith]
  rw [schemaSignatureHasColumn, parquetSchemaSignature, Str.any_split_intercalate rfl empty,
    (List.perm_insertionSort _ _).any_eq]
  by_cases has : '\x1f' ∈ column.toList
  · simp only [has, not_true_eq_false, false_and, iff_false, List.any_eq_true, not_exists]
    rintro text ⟨-, piece, mem, starts⟩
    obtain ⟨rest, rfl⟩ := Str.startsWith_iff.mp starts
    exact Str.free_of_mem_split mem (by simp [has])
  · have clear : '\x1f' ∉ (column ++ "=").toList := by simpa using has
    have shown text := Str.any_startsWith_split text (by decide : "\x1f".toList = ['\x1f']) clear
    simp only [shown]
    simp [has, FieldDefinition.shows]

/-- The lookup in a signature is exact just where no field that it should find has the separator
in its name, and no field shows a column that is not there. -/
theorem column_lookup_exact_iff (inspection : ParquetInspection) (column : String) :
    (schemaSignatureHasColumn (parquetSchemaSignature inspection) column = true ↔
        ∃ field ∈ inspection.fields, field.name = column) ↔
      if ∃ field ∈ inspection.fields, field.name = column then '\x1f' ∉ column.toList
      else '\x1f' ∈ column.toList ∨ ∀ field ∈ inspection.fields, field.shows column = false := by
  rw [hasColumn_signature]
  have shown : (∃ field ∈ inspection.fields, field.name = column) →
      ∃ field ∈ inspection.fields, field.shows column = true := by
    rintro ⟨field, mem, rfl⟩
    exact ⟨field, mem, Bool.or_eq_true_iff.mpr (.inl (Str.startsWith_iff.mpr ⟨_, rfl⟩))⟩
  split
  · rename_i named
    simp [named, shown named]
  · rename_i absent
    simp [absent]
    tauto

/-- A field whose name has the sign of equality answers for a column that no field has. -/
theorem lookup_finds_no_field :
    let inspection : ParquetInspection := ⟨0, 0, [], [⟨"a=b", "int", true⟩], [], false⟩
    schemaSignatureHasColumn (parquetSchemaSignature inspection) "a" = true ∧
      ¬ ∃ field ∈ inspection.fields, field.name = "a" := by
  decide

section

variable (digests : Digests) (inventory : DatasetInventory) (policy : SchemaPolicy)

/-- Explicit rename map entries from the policy. -/
def renameOp (entry : String × String) : Option ProposedOperation :=
  if entry.1 = entry.2 then none
  else if inventory.parquetFiles.countP (fun file =>
      schemaSignatureHasColumn file.schemaSignature entry.1) = 0 then none
  else some ⟨stableHexId digests "schema-rename" (.rename entry.1 entry.2), .reviewRequired,
    .renameColumn entry.1 entry.2⟩

def applyRenameRules : List ProposedOperation :=
  policy.rename.toList.filterMap (renameOp digests inventory)

/-- Kind of an operation that harmonizes a field. -/
def schemaKind : Compatibility → Option String
  | .lossless => some "schema-widen"
  | .conditionallyLossless => some "schema-cond"
  | .potentiallyLossy | .unsupported => none

/-- What harmonizes the two sides of a difference. -/
def schemaAction (path : String) (left right : FieldDescriptor) : Option RepairAction :=
  if left.physicalType ≠ right.physicalType then
    some (.castColumn path left.physicalType right.physicalType)
  else if left.nullable ≠ right.nullable then
    some (.castColumn path ("nullable=" ++ toString left.nullable)
      ("nullable=" ++ toString right.nullable))
  else if policy.allowColumnReorder then
    some (.alignSchema path left.physicalType right.physicalType)
  else none

/-- Operation for one difference. Every difference has a left side. -/
def schemaOp (canonical : List FieldDescriptor) (difference : FieldDifference) :
    Option ProposedOperation :=
  if difference.difference = .identical then none
  else do
    let kind ← schemaKind difference.compatibility
    let left ← difference.left
    let fallback := (canonical.find? fun field => field.name = left.name).getD default
    let action ← schemaAction policy difference.path left (difference.right.getD fallback)
    return ⟨stableHexId digests kind (.field difference.path action), .reviewRequired, action⟩

def applySchemaRules (diff : SchemaDiff) (canonical : List FieldDescriptor) :
    List ProposedOperation :=
  diff.fields.filterMap (schemaOp digests policy canonical)

end

/-- `{:04}` of the position of a conflict. -/
def blockedId (index : Nat) : String := "blocked-schema-" ++ Str.zeroPadded 4 index

def applySchemaRulesBlocked (conflicts : List UnresolvableSchemaConflict) :
    List ProposedOperation :=
  conflicts.mapIdx fun index conflict =>
    ⟨blockedId index, .blocked, .alignSchema conflict.field
      ((conflict.variants[0]?.map (·.physicalType)).getD "")
      ((conflict.variants[1]?.map (·.physicalType)).getD "")⟩

/-! ## Dependencies -/

/-- Phase in which an action runs. -/
def actionOrder : RepairAction → Nat
  | .castColumn .. | .alignSchema .. | .renameColumn .. => 0
  | .splitLargeFile .. => 1
  | .resizeRowGroups .. => 2
  | .recompress .. => 3
  | .rebuildStatistics .. => 4
  | .mergeSmallFiles .. => 5
  | .repartition .. => 6

/-- The order in which `assign_dependencies` sorts. -/
def runsBefore (a b : RepairOperation) : Prop :=
  actionOrder a.action < actionOrder b.action ∨
    actionOrder a.action = actionOrder b.action ∧ a.operationId ≤ b.operationId

instance : DecidableRel runsBefore := fun _ _ => inferInstanceAs (Decidable (_ ∨ _))

/-- Operations of earlier phases among the previous ones. -/
def dependOnEarlier (previous : List RepairOperation) : List RepairOperation → List RepairOperation
  | [] => []
  | op :: rest =>
    let earlier := previous.filter fun prev => actionOrder prev.action < actionOrder op.action
    { op with dependsOn := earlier.map (·.operationId) } :: dependOnEarlier (previous ++ [op]) rest

/-- Assign deterministic `depends_on` edges based on action kind constraints. -/
def assignDependencies (ops : List RepairOperation) : List RepairOperation :=
  dependOnEarlier [] (ops.insertionSort runsBefore)

/-! ## Plans -/

def fieldFromDefinition (field : FieldDefinition) : FieldDescriptor where
  name := field.name
  physicalType := (Str.firstWord field.logicalType).getD "UNKNOWN"
  nullable := field.nullable

/-- Build file schema views from parquet inspections in inventory. -/
def viewsFromInventory (inventory : DatasetInventory) : List FileSchemaView :=
  inventory.parquetFiles.map fun file => ⟨file.path, file.fields.map fieldFromDefinition⟩

variable (digests : Digests) (root : String) (scan : ScanReport) (policy : EffectivePolicy)

/-- What the rules propose, in the order of the source. -/
def proposedOperations (inventory : DatasetInventory) (findings : List String)
    (resolution : SchemaResolution) : List ProposedOperation :=
  let canonical := resolution.targetSchema.getD resolution.diff.canonicalSchema
  applyRepairRules digests root inventory policy scan findings ++
    applyRenameRules digests inventory policy.schema ++
    applySchemaRules digests policy.schema resolution.diff canonical ++
    applySchemaRulesBlocked resolution.conflicts

def planOperations (inventory : DatasetInventory) (findings : List String)
    (resolution : SchemaResolution) : List RepairOperation :=
  assignDependencies ((proposedOperations digests root scan policy inventory findings
    resolution).map fun op => ⟨op.operationId, op.safety, op.action, []⟩)

/-- Plan for an inventory, its diagnosis and its fingerprint. -/
def assemblePlan (inventory : DatasetInventory) (findings : List String)
    (resolution : SchemaResolution) (fingerprint : DatasetFingerprint) : RepairPlan :=
  let operations := planOperations digests root scan policy inventory findings resolution
  let policyFingerprint := digests.policyDigest policy
  { schemaVersion := PLAN_SCHEMA_VERSION
    planId := stableHexId digests "plan" (.plan fingerprint.digest policyFingerprint
      (operations.map fun op => (op.operationId, op.action, op.safety)) resolution.targetSchema)
    datasetRoot := root
    datasetFingerprint := fingerprint
    policyFingerprint := policyFingerprint
    repairPolicy := policy.repair
    operations := operations }

variable {File Schema Batch : Type} (tools : Toolkit File Schema Batch)

def generatePlan (targetSchema : Option (List FieldDescriptor)) : LocalM File RepairPlan := do
  let inventory ← fromScanReport tools root scan
  let diagnosis ← diagnose tools root scan policy.repair
  let resolution := resolveCanonicalSchema digests.toUppercase policy.schema
    (viewsFromInventory inventory) targetSchema
  let fingerprint := computeDatasetFingerprint tools root inventory
  return assemblePlan digests root scan policy inventory diagnosis.findings resolution fingerprint

end Parqonaut.Repair
