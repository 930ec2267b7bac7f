import Parqonaut.Repair.DependencyOrder
import Parqonaut.Repair.WritesBelow
import Parqonaut.Storage.InventoryExactness

/-!
# Verification of a repair with a remote source

The rows of the seeded objects against the rows of the published files, with arbitrary programs in
the place of `apply_operation`. Both scans that the verification compares are taken of the
repaired directory, so it never sees what was seeded.
-/

namespace Parqonaut.Repair

open Effects Rust Storage Fallible Disk

variable {File Schema Batch : Type}

/-! ## Arbitrary operations -/

/-- What an operation does: a program in the place of `apply_operation`. -/
abbrev Behaviour (File : Type) : Type :=
  RepairOperation → (root work : String) → Working → LocalM File Working

/-- `run_repair_operations` around an arbitrary behaviour of the operations. -/
def runOrRetainWith (apply : Behaviour File) (executor : RepairExecutor) (plan : RepairPlan)
    (root staging work : String) (working : Working) : LocalM File RepairOperationOutcome := do
  match ← Fallible.attempt (do
      let sorted ← liftResult id (sortByDependencies plan.operations)
      visitAll executor (auditContext plan) (fun op => apply op root work) sorted working
        ⟨[], [], []⟩) with
  | .ok (_, outcome) => return outcome
  | .error error => throw (.partialExecution (staging ++ " (" ++ error.display ++ ")"))

lemma runOrRetain_eq (tools : Toolkit File Schema Batch) [DecidableEq Schema]
    (executor : RepairExecutor) (plan : RepairPlan) (root staging work : String)
    (working : Working) :
    runOrRetain tools executor plan root staging work working =
      runOrRetainWith (applyOperation tools) executor plan root staging work working := by
  unfold runOrRetain runOrRetainWith runRepairOperations
  have same : runSorted tools executor (auditContext plan) root work =
      visitAll executor (auditContext plan) (fun op => applyOperation tools op root work) := by
    funext ops state outcome
    rw [runSorted_eq_visitAll]
  rewrite [same]
  rfl

/-- Working directory of an execution with a remote source. -/
def remoteWork (tempDir : String) (root : S3Location) (output : DatasetLocation)
    (executionId : String) : String :=
  Path.join (stagingPath (stagingParentPath tempDir (.s3 root) output) executionId) "work"

/-- List the source and copy its parquet objects into the working directory. -/
def seedRemote (context : StorageContext File) (root : S3Location) (work : String) :
    StorageRepairM File (Option (RemoteInventory × Working)) := do
  onDisk (fsCall (.createDirAll work))
  let listed ← onSource (Fallible.mapErr storageErr
    (listRemoteInventory context.serde context.inventoryPages root))
  match listed with
  | none => return none
  | some inventory =>
    let working ← seedWorkDirFromRemote root inventory work
    return some (inventory, working)

/-- Part of `execute_storage` before verification, for a remote source, with the inventory that was
seeded. -/
def repairRemote (tools : Toolkit File Schema Batch) (apply : Behaviour File)
    (context : StorageContext File) (executor : RepairExecutor) (plan : RepairPlan)
    (output : DatasetLocation) (scan : ScanReport) (executionId : String) (root : S3Location) :
    StorageRepairM File (Option (RemoteInventory × StagedRepair)) := do
  onDisk (liftResult id plan.validateVersion)
  checkStorageExecution tools context (.s3 root) output plan scan
  let staging := stagingPath (stagingParentPath context.tempDir (.s3 root) output) executionId
  let work := remoteWork context.tempDir root output executionId
  match ← seedRemote context root work with
  | none => return none
  | some (inventory, working) =>
    let outcome ← onDisk (runOrRetainWith apply executor plan work staging work working)
    return some (inventory, ⟨.s3 root, staging, work, outcome⟩)

/-- `execute_storage` repairs a remote source in this way. -/
lemma repairInStaging_eq_repairRemote (tools : Toolkit File Schema Batch) [DecidableEq Schema]
    (context : StorageContext File) (executor : RepairExecutor) (plan : RepairPlan)
    (output : DatasetLocation) (scan : ScanReport) (executionId : String) (root : S3Location)
    (parses : context.parse plan.datasetRoot = .ok (.s3 root)) :
    repairInStaging tools context executor plan output scan executionId = (do
      let repaired ← repairRemote tools (applyOperation tools) context executor plan output scan
        executionId root
      return repaired.map (·.2)) := by
  have parsed : (onDisk (liftResult storageErr (context.parse plan.datasetRoot)) :
      StorageRepairM File DatasetLocation) = pure (.s3 root) := by
    rw [parses]
    rfl
  simp only [repairInStaging, repairRemote, seedRemote, seedWorkingSet, remoteWork, operationRoot,
    runOrRetain_eq, parsed, pure_bind, bind_assoc]
  refine bind_congr fun _ => bind_congr fun _ => bind_congr fun _ => bind_congr fun listed => ?_
  cases listed with
  | none => simp only [pure_bind, Option.map_none]
  | some => simp only [bind_assoc, pure_bind, Option.map_some]

/-! ## Rows -/

/-- Number of rows that the footer of a file records. -/
def fileRows (tools : Toolkit File Schema Batch) (file : File) : Int :=
  ((tools.inspect file).toOption.map (·.numRows)).getD 0

/-- Rows of the parquet objects of an inventory. -/
def objectRows (tools : Toolkit File Schema Batch) (root : S3Location) (store : Store File)
    (inventory : RemoteInventory) : Int :=
  ((inventory.objects.filter (hasParquetKey root)).map fun object =>
    ((store.objects object.location).map fun stored => fileRows tools stored.data).getD 0).sum

/-- Rows of the files below a directory. -/
def directoryRows (tools : Toolkit File Schema Batch) (disk : Disk File) (path : String) : Int :=
  total (fun place file =>
    if below (Path.resolve path) place then fileRows tools file else 0) disk.files

/-! ## Property -/

/-- A scan reports every file that it is given as a parquet file. -/
def ScansAll (tools : Toolkit File Schema Batch) : Prop :=
  ∀ root files report, tools.scan root files = .ok report →
    report.assets.map (·.path) = files.map (fun file => Path.join root file.1) ∧
      ∀ asset ∈ report.assets, asset.format = .parquet

/-- What an execution with a remote source depends on, besides the executor and the plan. -/
structure RemoteSetting (File Schema Batch : Type) where
  tools : Toolkit File Schema Batch
  apply : Behaviour File
  context : StorageContext File
  sourceS3 : S3Service File
  outputS3 : S3Service File
  root : S3Location
  output : DatasetLocation
  scan : ScanReport
  executionId : String

namespace RemoteSetting

variable (setting : RemoteSetting File Schema Batch)

/-- The disk, the source and the output. -/
abbrev service : Service (FsRequest File ⊕ RemoteRequest File)
    (SumResp FsRequest.Answer RemoteRequest.Answer) (Disk File × Store File × Store File) :=
  storageService setting.tools.created (setting.sourceS3.service.both setting.outputS3.service)

def work : String :=
  remoteWork setting.context.tempDir setting.root setting.output setting.executionId

def repair (executor : RepairExecutor) (plan : RepairPlan) :
    StorageRepairM File (Option (RemoteInventory × StagedRepair)) :=
  repairRemote setting.tools setting.apply setting.context executor plan setting.output
    setting.scan setting.executionId setting.root

/-- The source is remote, the scan engine reports all files, and the operations work in the working
directory, which is new. -/
structure Admits (plan : RepairPlan) (disk : Disk File) : Prop where
  parses : setting.context.parse plan.datasetRoot = .ok (.s3 setting.root)
  scans : ScansAll setting.tools
  within : ∀ op ∈ plan.operations, ∀ root work working, WorkingBelow work working →
    Asks (FsRequest.Within work) (WorkingBelow work) (setting.apply op root work working)
  fresh : ∀ place, below (Path.resolve setting.work) place = true → disk.files.lookup place = none

end RemoteSetting

/-- Whenever the verification of a repair with a remote source does not fail, the files to be
published have as many rows as the objects that were seeded. -/
def RemoteVerificationSound (executor : RepairExecutor) (plan : RepairPlan) : Prop :=
  ∀ (File Schema Batch : Type) (setting : RemoteSetting File Schema Batch) (disk later : Disk File)
    (source output : Store File) (inventory : RemoteInventory) (staged : StagedRepair)
    (mid : Disk File × Store File × Store File) (manifest : ExecutionManifest)
    (report : VerificationReport),
    setting.Admits plan disk →
    Returns setting.service (setting.repair executor plan) (disk, source, output)
      (some (inventory, staged)) mid →
    Returns (service setting.tools.created)
      (verifyStaged setting.tools executor plan setting.scan setting.executionId staged) mid.1
      manifest later →
    manifest.verification = some report → report.outcome ≠ .failed →
    objectRows setting.tools setting.root source inventory =
      directoryRows setting.tools mid.1 staged.work

/-- The plan gets as far as a verification. -/
def Verifies (executor : RepairExecutor) (plan : RepairPlan) : Prop :=
  executor.verifyBeforePublish = true ∧ plan.schemaVersion = PLAN_SCHEMA_VERSION ∧
    ∃ sorted, sortByDependencies plan.operations = .ok sorted

/-! ## Runs without a verification -/

section

variable {executor : RepairExecutor} {plan : RepairPlan} {tools : Toolkit File Schema Batch}
  {truncated : File} {disk later : Disk File} {staged : StagedRepair}

lemma not_verified {scan : ScanReport} {executionId : String}
    {manifest : ExecutionManifest} (unasked : executor.verifyBeforePublish = false)
    (returns : Returns (service truncated)
      (verifyStaged tools executor plan scan executionId staged) disk manifest later) :
    manifest.verification = none := by
  obtain ⟨_, _, _, scanning⟩ := returns.of_bind
  obtain ⟨_, _, _, verifying⟩ := scanning.of_bind
  obtain ⟨_, _, checked, fingerprinting⟩ := verifying.of_bind
  rw [verification, unasked, if_neg Bool.false_ne_true] at checked
  cases checked.of_pure
  obtain ⟨_, _, _, ended⟩ := fingerprinting.of_bind
  cases ended.of_pure
  rfl

lemma sorted_of_returns {apply : Behaviour File} {root staging work : String}
    {working : Working} {outcome : RepairOperationOutcome}
    (returns : Returns (service truncated)
      (runOrRetainWith apply executor plan root staging work working) disk outcome later) :
    ∃ sorted, sortByDependencies plan.operations = .ok sorted := by
  obtain ⟨result, _, ended, rest⟩ := returns_attempt_bind.mp returns
  cases result with
  | error => cases rest.of_throw
  | ok =>
    obtain ⟨sorted, _, sorts, -⟩ := returns_bind.mp ended
    exact ⟨sorted, (value_of_returns_liftResult sorts).1⟩

/-- A repair that reaches its end has a supported plan whose operations could be ordered. -/
lemma supported_of_returns {setting : RemoteSetting File Schema Batch}
    {state mid : Disk File × Store File × Store File} {inventory : RemoteInventory}
    (returns : Returns setting.service (setting.repair executor plan) state
      (some (inventory, staged)) mid) :
    plan.schemaVersion = PLAN_SCHEMA_VERSION ∧
      ∃ sorted, sortByDependencies plan.operations = .ok sorted := by
  obtain ⟨_, _, validated, checking⟩ := returns.of_bind
  have valid := (value_of_returns_liftResult (returns_onDisk validated)).1
  obtain ⟨_, _, _, seeding⟩ := checking.of_bind
  obtain ⟨seeded, _, _, operating⟩ := seeding.of_bind
  constructor
  · rw [RepairPlan.validateVersion] at valid
    split at valid
    · cases valid
    · rename_i supported
      exact not_not.mp supported
  · cases seeded with
    | none => cases (returns_pure.mp operating).1
    | some =>
      obtain ⟨_, _, operated, _⟩ := operating.of_bind
      exact sorted_of_returns (returns_onDisk operated)

lemma sound_of_not_verifies (unverified : ¬ Verifies executor plan) :
    RemoteVerificationSound executor plan := by
  intro _ _ _ _ _ _ _ _ _ _ _ _ _
    _ repaired verified present _
  obtain ⟨supported, sorts⟩ := supported_of_returns repaired
  have unasked : executor.verifyBeforePublish = false := by
    by_contra asked
    exact unverified ⟨Bool.eq_true_of_not_eq_false asked, supported, sorts⟩
  rw [not_verified unasked verified] at present
  cases present

/-! ## A run that loses everything -/

/-- A directory without files passes the verification. -/
lemma empty_verified {executionId : String} {staged : StagedRepair} {scan : ScanReport}
    {root : S3Location} (remote : staged.source = .s3 root)
    (asked : executor.verifyBeforePublish = true) (walks : disk.walkFiles staged.work = .ok [])
    (scans : tools.scan staged.work [] = .ok ⟨[], []⟩) :
    ∃ manifest report, Returns (service truncated)
        (verifyStaged tools executor plan scan executionId staged) disk manifest disk ∧
      manifest.verification = some report ∧ report.outcome ≠ .failed := by
  have scanned : Returns (service truncated) (scanDirectory tools staged.work) disk
      ⟨[], []⟩ disk := by
    refine returns_bind.mpr ⟨[], disk, returns_fsCall ?_, ?_⟩
    · exact Prod.ext walks rfl
    · refine .bind returns_value ?_
      rw [scans]
      exact returns_value
  have before : Returns (service truncated)
      (beforeScanForSource tools staged.source scan staged.work) disk ⟨[], []⟩ disk := by
    rw [remote]
    exact scanned
  -- with no assets to inspect, nothing is left to ask the disk for
  have verified : Returns (service truncated) (verification tools executor plan ⟨[], []⟩ ⟨[], []⟩
        (operationRoot staged.source staged.work) staged.work) disk
      (some (verificationReport ⟨operationRoot staged.source staged.work, [], 0, []⟩
        ⟨staged.work, [], 0, []⟩ [] ⟨[], 0, 0⟩ ⟨[], 0, 0⟩ none none)) disk := by
    rw [verification, if_pos asked]
    exact returns_value
  have fingerprinted : Returns (service truncated)
      (computeFingerprintFromScan tools staged.work ⟨[], []⟩) disk
      ⟨FINGERPRINT_VERSION, staged.work, [], tools.digest []⟩ disk :=
    returns_value
  refine ⟨_, _, .bind before (.bind scanned (.bind verified (.bind fingerprinted returns_value))),
    rfl, ?_⟩
  exact verificationReport_ne_failed.mpr ⟨rfl, id⟩

end

/-- Operations that do nothing come to their end. -/
lemma visitAll_idle {m : Type → Type} [Monad m] [LawfulMonad m] {executor : RepairExecutor}
    {context : OperationAuditContext} {ops : List RepairOperation} {working : Working}
    {outcome : RepairOperationOutcome} :
    visitAll executor context (fun _ working => pure working : RepairOperation → Working → m Working)
        ops working outcome =
      pure (working, ops.foldl (fun outcome op => outcome.record executor context op) outcome) := by
  induction ops generalizing outcome with
  | nil => rfl
  | cons _ _ ih => simp [visitAll, visit, ih]

namespace Reference

open Storage.Reference

/-- A source with one object, whose relative key is an absolute path. -/
def strayRoot : S3Location := ⟨"b", "p"⟩

def strayEntries : List (String × Payload) := [("p//x.parquet", .contents "x")]

def strayContext : StorageContext Payload :=
  { remoteContext with parse := fun _ => .ok (.s3 strayRoot) }

/-- Operations that do nothing, and a digest as the plan has it. -/
def straySetting (digest : String) : RemoteSetting Payload Unit Char where
  tools := { tools with digest := fun _ => digest }
  apply := fun _ _ _ working => pure working
  context := strayContext
  sourceS3 := listingOf strayEntries
  outputS3 := s3
  root := strayRoot
  output := .localDir ⟨"/o"⟩
  scan := ⟨[], []⟩
  executionId := "x"

def emptyDisk : Disk Payload := ⟨∅, []⟩

def strayWork : String := remoteWork strayContext.tempDir strayRoot (.localDir ⟨"/o"⟩) "x"

lemma stray_seeded : ∃ seeded after, Returns
      (storageService tools.created ((listingOf strayEntries).service.both s3.service))
      (seedRemote strayContext strayRoot strayWork) (emptyDisk, storeOf strayEntries, empty) seeded
      after ∧
    (seeded.any (fun found => objectRows tools strayRoot (storeOf strayEntries) found.1 = 1) &&
      (after.1.walkFiles strayWork).toOption = some [] &&
      directoryRows tools after.1 strayWork = 0) = true :=
  exists_returns_of_eval (by decide +kernel)

lemma stray_admits (plan : RepairPlan) :
    (straySetting plan.datasetFingerprint.digest).Admits plan emptyDisk where
  parses := rfl
  scans := by
    rintro _ _ _ ⟨⟩
    constructor
    · simp
    · intro _ mem
      obtain ⟨_, -, rfl⟩ := List.mem_map.mp mem
      rfl
  within := fun _ _ _ _ _ below => asks_pure below
  fresh := fun _ _ => rfl

variable {plan : RepairPlan}

lemma stray_checked {source output : Store Payload} :
    Returns (straySetting plan.datasetFingerprint.digest).service
      (checkStorageExecution (straySetting plan.datasetFingerprint.digest).tools strayContext
        (.s3 strayRoot) (.localDir ⟨"/o"⟩) plan ⟨[], []⟩)
      (emptyDisk, source, output) () (emptyDisk, source, output) := by
  have free : serve tools.created (.exists "/o") emptyDisk = (.ok false, emptyDisk) :=
    Prod.ext (by decide) rfl
  have available : Returns (straySetting plan.datasetFingerprint.digest).service
      (ensureOutputAvailable strayContext (.localDir ⟨"/o"⟩)) (emptyDisk, source, output) ()
      (emptyDisk, source, output) :=
    returns_bind.mpr ⟨false, (emptyDisk, source, output),
      returns_inl.mpr ⟨returns_fsCall free, rfl⟩, returns_value⟩
  have matching : Returns (service tools.created)
      (verifySourceFingerprint (straySetting plan.datasetFingerprint.digest).tools (.s3 strayRoot)
        plan ⟨[], []⟩) emptyDisk () emptyDisk := by
    refine returns_bind.mpr ⟨⟨FINGERPRINT_VERSION, _, [], plan.datasetFingerprint.digest⟩,
      emptyDisk, returns_value, ?_⟩
    rw [DatasetFingerprint.verifyAgainst, if_neg (not_not.mpr rfl)]
    exact returns_value
  exact .bind available (returns_inl.mpr ⟨matching, rfl⟩)

variable {executor : RepairExecutor}

lemma stray_operated {digest : String}
    {root staging work : String} {working : Working} {sorted : List RepairOperation}
    {disk : Disk Payload} (sorts : sortByDependencies plan.operations = .ok sorted) :
    ∃ outcome, Returns (service tools.created)
      (runOrRetainWith (straySetting digest).apply executor plan root staging work working) disk
      outcome disk := by
  have visited : visitAll executor (Parqonaut.Repair.auditContext plan)
      (fun op => (straySetting digest).apply op root work) sorted working ⟨[], [], []⟩ =
        pure (working, sorted.foldl
          (fun outcome op => outcome.record executor (Parqonaut.Repair.auditContext plan) op)
          ⟨[], [], []⟩) := visitAll_idle
  refine ⟨sorted.foldl
    (fun outcome op => outcome.record executor (Parqonaut.Repair.auditContext plan) op)
    ⟨[], [], []⟩, ?_⟩
  refine returns_attempt_bind.mpr ⟨.ok (working, _), disk, ?_, returns_value⟩
  rw [sorts]
  refine Returns.bind returns_value ?_
  rw [visited]
  exact returns_value

/-- The object is copied out of the working directory, the verification finds an empty
directory twice, and passes. -/
lemma stray_not_sound
    (verifies : Verifies executor plan) : ¬ RemoteVerificationSound executor plan := by
  intro sound
  obtain ⟨asked, supported, sorted, sorts⟩ := verifies
  obtain ⟨seeded, ⟨after, source, output⟩, seeds, tested⟩ := stray_seeded
  simp only [Bool.and_eq_true, decide_eq_true_eq] at tested
  obtain ⟨⟨seededRows, walks⟩, published⟩ := tested
  cases seeded with
  | none => cases seededRows
  | some seeded =>
    obtain ⟨outcome, operated⟩ := @stray_operated plan executor
      plan.datasetFingerprint.digest strayWork
      (stagingPath (stagingParentPath strayContext.tempDir (.s3 strayRoot) (.localDir ⟨"/o"⟩)) "x")
      strayWork seeded.2 sorted after sorts
    have valid : plan.validateVersion = .ok () := by
      rw [RepairPlan.validateVersion, if_neg (not_not.mpr supported)]
    have repaired : Returns (straySetting plan.datasetFingerprint.digest).service
        ((straySetting plan.datasetFingerprint.digest).repair executor plan)
        (emptyDisk, storeOf strayEntries, empty)
        (some (seeded.1, ⟨.s3 strayRoot, stagingPath (stagingParentPath strayContext.tempDir
          (.s3 strayRoot) (.localDir ⟨"/o"⟩)) "x", strayWork, outcome⟩))
        (after, source, output) := by
      refine returns_bind.mpr ⟨(), _, returns_inl.mpr ⟨?_, rfl⟩,
        .bind stray_checked (.bind seeds (returns_bind.mpr
          ⟨outcome, (after, source, output), returns_inl.mpr ⟨operated, rfl⟩, returns_value⟩))⟩
      rw [valid]
      exact returns_value
    have nothing : after.walkFiles strayWork = .ok [] := by
      cases walked : after.walkFiles strayWork with
      | ok =>
        rw [walked] at walks
        exact congrArg Except.ok (Option.some.inj walks)
      | error =>
        rw [walked] at walks
        cases walks
    obtain ⟨_, _, verified, present, passed⟩ := @empty_verified _ _ _ executor plan
      (straySetting plan.datasetFingerprint.digest).tools
      (straySetting plan.datasetFingerprint.digest).tools.created after "x"
      ⟨.s3 strayRoot, stagingPath (stagingParentPath strayContext.tempDir (.s3 strayRoot)
        (.localDir ⟨"/o"⟩)) "x", strayWork, outcome⟩ ⟨[], []⟩ strayRoot rfl asked nothing rfl
    have equal := sound _ _ _ _ _ _ _ _ _ _ _ _ _ (stray_admits plan) repaired verified present
      passed
    have lost := (of_decide_eq_true seededRows).symm.trans (equal.trans published)
    exact absurd lost (by decide)

end Reference

namespace Reference

open Storage.Reference

/-- A writer that loses the first batch. -/
def lossyTools : Toolkit Payload Unit Char :=
  { tools with writeBatches := fun _ _ batches => .ok (.contents (String.ofList (batches.drop 1))) }

def lossyEntries : List (String × Payload) := [("a.parquet", .contents "xy")]

/-- A plan that writes the only object of the source anew. -/
def lossyPlan : RepairPlan :=
  { planOf "a.parquet" [⟨"op", .safe, .recompress "zstd" [], []⟩] with datasetRoot := "s3://b/" }

def lossySetting : RemoteSetting Payload Unit Char where
  tools := lossyTools
  apply := applyOperation lossyTools
  context := { remoteContext with parse := fun _ => .ok (.s3 location) }
  sourceS3 := listingOf lossyEntries
  outputS3 := s3
  root := location
  output := .localDir ⟨"/o"⟩
  scan := ⟨[⟨"s3://b/a.parquet", .parquet, 1, some ⟨2, 1, [], [], [], true⟩⟩], []⟩
  executionId := "x"

lemma lossy_admits : lossySetting.Admits lossyPlan emptyDisk where
  parses := rfl
  scans := (stray_admits lossyPlan).scans
  within := by
    intro _ mem root work _ below
    refine applyOperation_asks lossyTools ?_ root work below
    cases List.mem_singleton.mp mem
    rintro _ _ ⟨⟩
  fresh := fun _ _ => rfl

lemma lossy_repaired : ∃ repaired after, Returns lossySetting.service
      (lossySetting.repair verifying lossyPlan) (emptyDisk, storeOf lossyEntries, empty) repaired
      after ∧
    repaired.any (fun found =>
      objectRows lossyTools location (storeOf lossyEntries) found.1 = 2 &&
      directoryRows lossyTools after.1 found.2.work = 1 &&
      (Fallible.eval (service lossyTools.created) (verifyStaged lossyTools verifying lossyPlan
        lossySetting.scan "x" found.2) after.1).1.toOption.any fun manifest =>
          manifest.verification.any (·.outcome = .verified)) = true :=
  exists_returns_of_eval (by decide +kernel)

end Reference

end Parqonaut.Repair
