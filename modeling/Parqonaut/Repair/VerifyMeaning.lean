import Mathlib.Data.List.Perm.Subperm
import Parqonaut.Repair.Planning

/-!
# What a verification outcome says

Inspection, diagnosis and verification only read the disk. The outcome is determined by the row
totals of the two scans on the disk and by the read failures that they found.
-/

namespace Parqonaut.Repair

open Effects Rust Fallible
open Disk (service)

variable {File Schema Batch : Type} (tools : Toolkit File Schema Batch)

/-! ## Rows of a scan -/

/-- Footer of an asset as the disk, or else the scan report, has it. -/
def assetInspection (disk : Disk File) (asset : AssetRecord) : Option ParquetInspection :=
  match disk.fileAt asset.path with
  | some contents => (tools.inspect contents).toOption
  | none => asset.inspectionHints

def assetRows (disk : Disk File) (asset : AssetRecord) : Int :=
  ((assetInspection tools disk asset).map (·.numRows)).getD 0

/-- Number of rows in the parquet files of a scan. -/
def rowTotal (disk : Disk File) (report : ScanReport) : Int :=
  ((parquetAssets report).map (assetRows tools disk)).sum

/-- Inspections of the parquet assets on the disk. -/
def inspectedFiles (disk : Disk File) (assets : List AssetRecord) : List ParquetFileMeta :=
  assets.filterMap fun asset => (assetInspection tools disk asset).map (fileMeta asset)

/-- Inventory that a scan report stands for. -/
def inventoryOf (disk : Disk File) (root : String) (scan : ScanReport) : DatasetInventory :=
  let files := inspectedFiles tools disk (parquetAssets scan)
  { root := root
    parquetFiles := files
    totalRows := (files.map (·.numRows)).sum
    schemaSignatures := sortedSet (files.map (·.schemaSignature)) }

/-- The output has as many rows as the source and no read failure that the source did
not have. -/
def Intact (disk : Disk File) (before after : ScanReport) : Prop :=
  rowTotal tools disk before = rowTotal tools disk after ∧
    (FORMAT_PARQUET_READ_FAILED ∈ after.findings → FORMAT_PARQUET_READ_FAILED ∈ before.findings)

instance (disk : Disk File) (before after : ScanReport) :
    Decidable (Intact tools disk before after) :=
  inferInstanceAs (Decidable (_ ∧ _))

/-- What a verification records besides the row count: the output has one schema or no more than
the source, a file, and the fingerprint of the manifest. -/
def Recorded (source output : DatasetInventory) (manifest : Option ExecutionManifest) : Prop :=
  (output.schemaSignatures.length ≤ source.schemaSignatures.length ∨
    output.schemaSignatures.length ≤ 1) ∧ output.parquetFiles ≠ [] ∧
  ∀ recorded ∈ manifest, (computeDatasetFingerprint tools output.root output).digest =
    recorded.outputFingerprint.digest

variable {tools} {truncated : File} {disk after : Disk File}

/-! ## Inspection -/

variable {path : String} {inspection : ParquetInspection}

lemma inspectParquetFile_returns
    (returns : Returns (service truncated) (inspectParquetFile tools path) disk inspection after) :
    ∃ contents, disk.fileAt path = some contents ∧ tools.inspect contents = .ok inspection ∧
      after = disk := by
  obtain ⟨answer, _, answers, rest⟩ := returns_request_bind.mp returns
  cases answer with
  | error => cases rest.of_throw
  | ok contents =>
    obtain ⟨found, rfl⟩ := Disk.serve_read_eq_ok.mp (Disk.serve_of_answers_ok answers)
    dsimp only at rest
    cases inspected : tools.inspect contents with
    | error =>
      rw [inspected] at rest
      cases rest.of_throw
    | ok =>
      rw [inspected] at rest
      cases rest.of_pure
      exact ⟨contents, found, inspected, rfl⟩

lemma inspectAsset_returns {asset : AssetRecord}
    (returns : Returns (service truncated) (inspectAsset tools asset) disk inspection after) :
    assetInspection tools disk asset = some inspection ∧ after = disk := by
  obtain ⟨_, mid, asked, rest⟩ := returns.of_bind
  obtain ⟨rfl, rfl⟩ := returns_isFile asked
  cases present : mid.fileAt asset.path with
  | some =>
    rw [present] at rest
    obtain ⟨_, there, inspected, unchanged⟩ := inspectParquetFile_returns rest
    rw [present] at there
    cases there
    simp [assetInspection, present, inspected, unchanged, Except.toOption]
  | none =>
    rw [present] at rest
    dsimp only [Option.isSome_none] at rest
    rw [if_neg Bool.false_ne_true] at rest
    cases hints : asset.inspectionHints with
    | some =>
      rw [hints] at rest
      cases rest.of_pure
      simp [assetInspection, present, hints]
    | none =>
      rw [hints] at rest
      dsimp only at rest
      split at rest
      · cases rest.of_throw
      · obtain ⟨_, there, _⟩ := inspectParquetFile_returns rest
        rw [present] at there
        cases there

variable {files : List ParquetFileMeta}

lemma inspectAssets_eq {assets : List AssetRecord}
    (returns : Returns (service truncated) (inspectAssets tools assets) disk
      files after) : files = inspectedFiles tools disk assets ∧ after = disk := by
  induction assets generalizing files after with
  | nil => exact returns_pure.mp returns
  | cons _ _ ih =>
    obtain ⟨_, _, first, later⟩ := returns.of_bind
    obtain ⟨inspected, rfl⟩ := inspectAsset_returns first
    obtain ⟨_, _, middle, ended⟩ := later.of_bind
    obtain ⟨rfl, rfl⟩ := ih middle
    cases ended.of_pure
    simp [inspectedFiles, inspected]

variable {root : String} {report : ScanReport} {inventory : DatasetInventory}

lemma fromScanReport_eq
    (returns : Returns (service truncated) (fromScanReport tools root report) disk
      inventory after) : inventory = inventoryOf tools disk root report ∧ after = disk := by
  obtain ⟨_, _, inspected, ended⟩ := returns.of_bind
  obtain ⟨rfl, rfl⟩ := inspectAssets_eq inspected
  exact returns_pure.mp ended

lemma totalRows_inventoryOf :
    (inventoryOf tools disk root report).totalRows = rowTotal tools disk report := by
  rw [rowTotal, inventoryOf]
  dsimp only
  induction parquetAssets report with
  | nil => rfl
  | cons asset _ ih =>
    rw [List.map_cons, List.sum_cons, ← ih]
    cases found : assetInspection tools disk asset with
    | none => simp [inspectedFiles, assetRows, found]
    | some => simp [inspectedFiles, assetRows, found, fileMeta]

/-! ## Diagnosis -/

/-- Findings of the scan and those that the diagnosis adds. -/
def foundCodes (scan : ScanReport) (policy : RepairPolicy) (inventory : DatasetInventory) :
    List String :=
  if inventory.parquetFiles.isEmpty then scan.findings
  else scan.findings ++ repairFindings policy inventory

variable {policy : RepairPolicy}

/-- The diagnosis itself never reports a read failure. -/
lemma readFailed_not_mem_repairFindings :
    FORMAT_PARQUET_READ_FAILED ∉ repairFindings policy inventory := by
  have known : ∀ code ∈ repairFindings policy inventory, code ∈ repairCodes := by
    intro _ mem
    simp only [repairFindings, List.mem_append] at mem
    rcases mem with ((mem | mem) | mem) | mem <;>
    · split at mem
      · rw [List.mem_singleton.mp mem]
        decide
      · cases mem
  intro mem
  exact absurd (known _ mem) (by decide)

variable {scan : ScanReport} {diagnosis : DiagnosisReport}

lemma diagnose_findings (returns : Returns (service truncated)
      (diagnose tools root scan policy) disk diagnosis after) :
    diagnosis.findings.Perm (foundCodes scan policy (inventoryOf tools disk root scan)) ∧
      after = disk := by
  obtain ⟨_, _, inspected, rest⟩ := returns.of_bind
  obtain ⟨rfl, rfl⟩ := fromScanReport_eq inspected
  rw [foundCodes]
  split at rest
  · rename_i none
    cases rest.of_pure
    rw [if_pos none]
    exact ⟨List.Perm.refl _, rfl⟩
  · rename_i some
    cases rest.of_pure
    rw [if_neg some]
    exact ⟨List.perm_insertionSort _ _, rfl⟩

lemma diagnose_returns (returns : Returns (service truncated)
      (diagnose tools root scan policy) disk diagnosis after) :
    (FORMAT_PARQUET_READ_FAILED ∈ diagnosis.findings ↔
      FORMAT_PARQUET_READ_FAILED ∈ scan.findings) ∧ after = disk := by
  obtain ⟨found, unchanged⟩ := diagnose_findings returns
  rw [found.mem_iff, foundCodes]
  split <;> simp [readFailed_not_mem_repairFindings, unchanged]

/-! ## Verification -/

@[simp] lemma mem_sortedSet {texts : List String} {text : String} :
    text ∈ sortedSet texts ↔ text ∈ texts := by
  simp [sortedSet, List.mem_insertionSort]

lemma outcomeOf_ne_failed {rowOk hasRegression : Bool} {remaining blocked new : List String} :
    outcomeOf rowOk hasRegression remaining blocked new ≠ .failed ↔
      rowOk = true ∧ hasRegression = false := by
  cases rowOk <;> cases hasRegression <;> simp [outcomeOf]
  split <;> simp

variable {manifest : Option ExecutionManifest} {results : List InvariantResult}

section

variable {beforeInv afterInv : DatasetInventory} {beforeDx afterDx : DiagnosisReport}
  {matching : Option Bool}

lemma verificationReport_ne_failed :
    (verificationReport beforeInv afterInv results beforeDx afterDx manifest
        matching).outcome ≠ .failed ↔
      beforeInv.totalRows = afterInv.totalRows ∧ (FORMAT_PARQUET_READ_FAILED ∈ afterDx.findings →
          FORMAT_PARQUET_READ_FAILED ∈ beforeDx.findings) := by
  unfold verificationReport
  rw [outcomeOf_ne_failed]
  simp [newFindings]

lemma verificationReport_passes :
    (∀ result ∈ (verificationReport beforeInv afterInv results beforeDx afterDx manifest
        matching).invariantResults, result.passed = true) ↔
      beforeInv.totalRows = afterInv.totalRows ∧
      (afterInv.schemaSignatures.length ≤ beforeInv.schemaSignatures.length ∨
        afterInv.schemaSignatures.length ≤ 1) ∧ afterInv.parquetFiles ≠ [] ∧
      ∀ result ∈ results, result.passed = true := by
  simp [verificationReport, rowCountInvariant, schemaInvariant, readabilityInvariant]

end

section

variable {before afterScan : ScanReport} {beforeRoot afterRoot : String}
lemma manifestInvariant_returns (returns : Returns (service truncated)
      (manifestInvariant tools afterRoot afterScan manifest) disk results after) :
    ((∀ result ∈ results, result.passed = true) ↔ ∀ recorded ∈ manifest,
        (computeDatasetFingerprint tools afterRoot
          (inventoryOf tools disk afterRoot afterScan)).digest =
        recorded.outputFingerprint.digest) ∧ after = disk := by
  cases manifest with
  | none =>
    cases returns.of_pure
    simp
  | some =>
    obtain ⟨_, _, computed, ended⟩ := returns.of_bind
    obtain ⟨_, _, listed, computing⟩ := computed.of_bind
    obtain ⟨rfl, rfl⟩ := fromScanReport_eq listed
    cases computing.of_pure
    cases ended.of_pure
    simp

/-- A verification passes exactly when the output is intact. What it records besides the
row count does not matter. -/
lemma verifyRepair_returns {report : VerificationReport} (returns : Returns (service truncated)
      (verifyRepair tools before afterScan beforeRoot afterRoot policy manifest) disk report
      after) :
    (report.outcome ≠ .failed ↔ Intact tools disk before afterScan) ∧
    ((∀ result ∈ report.invariantResults, result.passed = true) ↔
      rowTotal tools disk before = rowTotal tools disk afterScan ∧
      Recorded tools (inventoryOf tools disk beforeRoot before)
        (inventoryOf tools disk afterRoot afterScan) manifest) := by
  obtain ⟨_, _, beforeListed, listing⟩ := returns.of_bind
  obtain ⟨rfl, rfl⟩ := fromScanReport_eq beforeListed
  obtain ⟨_, _, afterListed, checking⟩ := listing.of_bind
  obtain ⟨rfl, rfl⟩ := fromScanReport_eq afterListed
  obtain ⟨_, _, checked, diagnosing⟩ := checking.of_bind
  obtain ⟨recorded, rfl⟩ := manifestInvariant_returns checked
  obtain ⟨_, _, beforeDiagnosed, diagnosingAfter⟩ := diagnosing.of_bind
  obtain ⟨beforeFailed, rfl⟩ := diagnose_returns beforeDiagnosed
  obtain ⟨_, _, afterDiagnosed, matchingLast⟩ := diagnosingAfter.of_bind
  obtain ⟨afterFailed, rfl⟩ := diagnose_returns afterDiagnosed
  obtain ⟨_, _, _, reporting⟩ := matchingLast.of_bind
  cases reporting.of_pure
  rw [verificationReport_ne_failed, verificationReport_passes, beforeFailed, afterFailed,
    totalRows_inventoryOf, totalRows_inventoryOf, recorded]
  exact ⟨Iff.rfl, Iff.rfl⟩

/-! ## Scanning -/

lemma readFiles_returns {names : List String} {files : List (String × File)}
    (returns : Returns (service truncated) (readFiles root names) disk files after) :
    (names.map fun rel => (rel, disk.fileAt (Path.join root rel))) =
      files.map (fun file => (file.1, some file.2)) ∧ after = disk := by
  induction names generalizing files after with
  | nil =>
    cases returns.of_pure
    exact ⟨rfl, rfl⟩
  | cons _ _ ih =>
    obtain ⟨_, _, first, later⟩ := returns.of_bind
    obtain ⟨found, rfl⟩ := fileAt_of_returns_read first
    obtain ⟨_, _, middle, ended⟩ := later.of_bind
    obtain ⟨same, rfl⟩ := ih middle
    cases ended.of_pure
    simp [found, same]

lemma scanDirectory_returns
    (returns : Returns (service truncated) (scanDirectory tools path) disk report after) :
    (∃ names files, disk.walkFiles path = .ok names ∧
      (names.map fun rel => (rel, disk.fileAt (Path.join path rel))) =
        files.map (fun file => (file.1, some file.2)) ∧
      tools.scan path files = .ok report) ∧ after = disk := by
  obtain ⟨names, _, walked, reading⟩ := returns.of_bind
  obtain ⟨walks, rfl⟩ := Prod.mk.inj (serve_of_returns_fsCall walked)
  obtain ⟨files, _, read, scanning⟩ := reading.of_bind
  obtain ⟨same, rfl⟩ := readFiles_returns read
  obtain ⟨scanned, rfl⟩ := value_of_returns_liftResult scanning
  exact ⟨⟨names, files, walks, same, scanned⟩, rfl⟩

/-- Two scans of one directory, with nothing in between, report the same. -/
lemma scanDirectory_unique {first second : ScanReport} {last : Disk File}
    (scanned : Returns (service truncated) (scanDirectory tools path) disk first
      after)
    (again : Returns (service truncated) (scanDirectory tools path) disk second
      last) : first = second := by
  obtain ⟨⟨_, _, walks, same, scan⟩, _⟩ := scanDirectory_returns scanned
  obtain ⟨⟨_, _, walks', same', scan'⟩, _⟩ := scanDirectory_returns again
  rw [walks] at walks'
  cases walks'
  rw [same] at same'
  have injective : Function.Injective fun file : String × File => (file.1, some file.2) := by
    rintro ⟨_, _⟩ ⟨_, _⟩ equal
    simpa using equal
  cases List.map_injective_iff.mpr injective same'
  rw [scan] at scan'
  cases scan'
  rfl

end

/-!
# What the planner sees

The planner reads the disk twice, for the inventory and for the diagnosis, and changes nothing.
A plan is therefore a function of the disk, the scan report and the policy.
-/

open Schema

variable {digests : Digests} {policy : EffectivePolicy} {target : Option (List FieldDescriptor)}

/-- The operations of a plan are what the rules propose for the inventory and the findings. -/
lemma generatePlan_returns {plan : RepairPlan} (returns : Returns (Disk.service truncated)
      (generatePlan digests root scan policy tools target) disk plan after) :
    (∃ findings, findings.Perm (foundCodes scan policy.repair (inventoryOf tools disk root scan)) ∧
      plan = assemblePlan digests root scan policy (inventoryOf tools disk root scan) findings
        (resolveCanonicalSchema digests.toUppercase policy.schema
          (viewsFromInventory (inventoryOf tools disk root scan)) target)
        (computeDatasetFingerprint tools root (inventoryOf tools disk root scan))) ∧
      after = disk := by
  obtain ⟨_, _, inspected, rest⟩ := returns.of_bind
  obtain ⟨rfl, rfl⟩ := fromScanReport_eq inspected
  obtain ⟨diagnosis, _, diagnosed, ended⟩ := rest.of_bind
  obtain ⟨found, rfl⟩ := diagnose_findings diagnosed
  cases ended.of_pure
  exact ⟨⟨diagnosis.findings, found, rfl⟩, rfl⟩

/-- The planner succeeds as soon as the files can be inspected. -/
lemma exists_plan (inspected : Returns (Disk.service truncated)
      (inspectAssets tools (parquetAssets scan)) disk files after) :
    ∃ plan, Returns (Disk.service truncated)
      (generatePlan digests root scan policy tools target) disk plan disk := by
  obtain ⟨-, rfl⟩ := inspectAssets_eq inspected
  obtain ⟨inventory, reads⟩ : ∃ inventory, Returns (Disk.service truncated)
      (fromScanReport tools root scan) after inventory after :=
    ⟨_, .bind inspected returns_value⟩
  obtain ⟨diagnosis, diagnoses⟩ : ∃ diagnosis, Returns (Disk.service truncated)
      (diagnose tools root scan policy.repair) after diagnosis after := by
    obtain ⟨diagnosis, rest⟩ : ∃ diagnosis, (if inventory.parquetFiles.isEmpty then
        (return ⟨scan.findings, 0, 0⟩ : LocalM File DiagnosisReport)
      else return ⟨(scan.findings ++ repairFindings policy.repair inventory).insertionSort (· ≤ ·),
        inventory.totalRows, inventory.parquetFiles.length⟩) = pure diagnosis := by
      split <;> exact ⟨_, rfl⟩
    refine ⟨diagnosis, .bind reads ?_⟩
    rw [rest]
    exact returns_value
  exact ⟨_, .bind reads (.bind diagnoses returns_value)⟩

/-!
# The local scan engine

`resolve_directory` of `local_resolve.rs` and the part of `ScanEngine::run` that decides which
files a report lists. The engine stops at a fixed number of files, of whatever format. The order
of the walk, the sizes and the rules that add findings are parameters; entries that the walk cannot
read are passed over.
-/

open List Path

def TARGET_SCAN_TRUNCATED : String := "system.target.scan_truncated"

/-- `ScanOptions::default().max_files`. -/
@[irreducible] def defaultMaxFiles : Nat := 100000

lemma defaultMaxFiles_pos : 0 < defaultMaxFiles := by
  unfold defaultMaxFiles
  decide

/-- Format that an extension in lower case stands for. -/
def formatOfExtension : Option String → DataFormat
  | none => .unknown
  | some ext =>
    if ext = "parquet" || ext = "pq" then .parquet
    else if ext = "csv" then .csv
    else if ext = "json" then .json
    else if ext = "ndjson" || ext = "jsonl" then .ndjson
    else .unknown

/-- Heuristic mapping from file extensions, whose case does not matter. -/
def classifyFormatFromPath (path : String) : DataFormat :=
  formatOfExtension ((extension path).map Str.toAsciiLowercase)

structure ResolvedAsset where
  path : String
  format : DataFormat
  sizeBytes : Nat

/-- Record of a listed file in the report. -/
def ResolvedAsset.record (asset : ResolvedAsset) : AssetRecord :=
  ⟨asset.path, asset.format, asset.sizeBytes, none⟩

/-- The order of paths. -/
def ResolvedAsset.before (a b : ResolvedAsset) : Prop :=
  components a.path ≤ components b.path

instance : DecidableRel ResolvedAsset.before :=
  fun a b => inferInstanceAs (Decidable (components a.path ≤ components b.path))

structure ScanPlan where
  root : String
  assets : List ResolvedAsset
  truncated : Bool

structure ScanEngine (File : Type) where
  walk : List (String × File) → List (String × File)
  walk_subperm : ∀ files, (walk files).Subperm files
  sizeOf : File → Nat
  rules : ScanPlan → List (String × File) → List String

namespace ScanEngine

variable (engine : ScanEngine File)

def resolved (root : String) (file : String × File) : ResolvedAsset :=
  let path := join root file.1
  ⟨path, classifyFormatFromPath path, engine.sizeOf file.2⟩

lemma resolved_format (root : String) (file : String × File) :
    (engine.resolved root file).record.format = classifyFormatFromPath (join root file.1) := by
  rw [ResolvedAsset.record, resolved]

/-- Loop over the walk: it ends when `cap` files are listed. -/
def resolveEntries (root : String) (cap : Nat) :
    List (String × File) → List ResolvedAsset → List ResolvedAsset × Bool
  | [], assets => (assets, false)
  | file :: rest, assets =>
    let assets := assets ++ [engine.resolved root file]
    if cap ≤ assets.length then (assets, true) else resolveEntries root cap rest assets

def resolveDirectory (root : String) (maxFiles : Nat) (files : List (String × File)) :
    ScanPlan :=
  let (assets, truncated) := engine.resolveEntries root (max maxFiles 1) (engine.walk files) []
  ⟨root, assets, truncated⟩

/-- The footer of a listed file cannot be read. -/
def readFails (inspect : File → Except String ParquetInspection) (root : String)
    (files : List (String × File)) (asset : ResolvedAsset) : Bool :=
  match files.find? fun file => join root file.1 = asset.path with
  | none => true
  | some file =>
    match inspect file.2 with
    | .ok _ => false
    | .error _ => true

/-- `ScanEngine::run` with the default options. -/
def run (inspect : File → Except String ParquetInspection) (root : String)
    (files : List (String × File)) : ScanReport :=
  let plan := engine.resolveDirectory root defaultMaxFiles files
  let sorted := plan.assets.insertionSort ResolvedAsset.before
  let failures := sorted.filter fun asset =>
    asset.format = .parquet && readFails inspect root files asset
  { assets := sorted.map (·.record)
    findings := (engine.rules plan files ++ failures.map (fun _ => FORMAT_PARQUET_READ_FAILED) ++
      if plan.truncated then [TARGET_SCAN_TRUNCATED] else []).insertionSort (· ≤ ·) }

lemma resolveEntries_eq (root : String) {cap : Nat} (files : List (String × File))
    {assets : List ResolvedAsset} (room : assets.length < cap) :
    engine.resolveEntries root cap files assets =
      (assets ++ (files.take (cap - assets.length)).map (engine.resolved root),
        decide (cap ≤ assets.length + files.length)) := by
  induction files generalizing assets with
  | nil => simp [resolveEntries, room]
  | cons _ rest ih =>
    have rest_room : cap - assets.length = cap - (assets.length + 1) + 1 := by omega
    rw [resolveEntries]
    by_cases full : cap ≤ assets.length + 1
    · have last : cap - (assets.length + 1) = 0 := by omega
      simp [full, rest_room, last]
      omega
    · rw [if_neg (by simpa using full), ih (by simpa using Nat.lt_of_not_le full)]
      have count : assets.length + 1 + rest.length = assets.length + (rest.length + 1) := by
        omega
      simp [rest_room, count]

/-- A report lists the first files of the walk. -/
lemma resolveDirectory_eq (root : String) (maxFiles : Nat) (files : List (String × File)) :
    engine.resolveDirectory root maxFiles files =
      ⟨root, ((engine.walk files).take (max maxFiles 1)).map (engine.resolved root),
        decide (max maxFiles 1 ≤ (engine.walk files).length)⟩ := by
  have room : ([] : List ResolvedAsset).length < max maxFiles 1 := Nat.le_max_right maxFiles 1
  simp [resolveDirectory, engine.resolveEntries_eq root _ room]

/-- The plan lists as many files as it may, and says exactly whether it left some out unless the
walk has just as many as it may list. -/
theorem truncation_exact_iff (root : String) (maxFiles : Nat) (files : List (String × File)) :
    let plan := engine.resolveDirectory root maxFiles files
    (plan.assets.length = min (engine.walk files).length (max 1 maxFiles) ∧
        (plan.truncated = true ↔ (engine.walk files).length > max 1 maxFiles)) ↔
      (engine.walk files).length ≠ max 1 maxFiles := by
  simp only [resolveDirectory_eq, length_map, length_take, decide_eq_true_eq]
  omega

/-- A plan that lists the whole walk says that it was truncated. -/
theorem whole_scan_truncated : ∃ engine : ScanEngine Nat, (engine.walk [("a", 0)]).length = 1 ∧
    (engine.resolveDirectory "/d" 1 [("a", 0)]).truncated = true :=
  ⟨⟨id, Subperm.refl, id, fun _ _ => []⟩, rfl, rfl⟩

lemma mem_assets_run {inspect : File → Except String ParquetInspection}
    {files : List (String × File)} {asset : AssetRecord} :
    asset ∈ (engine.run inspect root files).assets ↔
      ∃ file ∈ (engine.walk files).take defaultMaxFiles,
        asset = (engine.resolved root file).record := by
  have listed : (engine.resolveDirectory root defaultMaxFiles files).assets =
      ((engine.walk files).take defaultMaxFiles).map (engine.resolved root) := by
    rw [resolveDirectory_eq, Nat.max_eq_left defaultMaxFiles_pos]
  constructor
  · intro mem
    obtain ⟨_, sorted, rfl⟩ := mem_map.mp mem
    have walked := (perm_insertionSort ResolvedAsset.before _).mem_iff.mp sorted
    rw [listed] at walked
    obtain ⟨file, taken, rfl⟩ := mem_map.mp walked
    exact ⟨file, taken, rfl⟩
  · rintro ⟨file, taken, rfl⟩
    refine mem_map.mpr ⟨engine.resolved root file, ?_, rfl⟩
    rw [(perm_insertionSort ResolvedAsset.before _).mem_iff, listed]
    exact mem_map_of_mem taken

end ScanEngine

/-- A toolkit that scans with the local engine. -/
def Toolkit.withEngine (tools : Toolkit File Schema Batch) (engine : ScanEngine File) :
    Toolkit File Schema Batch :=
  { tools with scan := fun root files => .ok (engine.run tools.inspect root files) }

/-- Files below a directory. -/
def treeFiles (disk : Disk File) (root : String) : List (String × File) :=
  match disk.walkFiles root with
  | .ok names => names.filterMap fun rel => (disk.fileAt (join root rel)).map (rel, ·)
  | .error _ => []

lemma scanDirectory_engine {tools : Toolkit File Schema Batch} {engine : ScanEngine File}
    (returns : Fallible.Returns (Disk.service truncated)
      (scanDirectory (tools.withEngine engine) root) disk scan after) :
    (∃ names, disk.walkFiles root = .ok names) ∧
      scan = engine.run tools.inspect root (treeFiles disk root) ∧ after = disk := by
  obtain ⟨⟨names, files, walks, same, scanned⟩, rfl⟩ := scanDirectory_returns returns
  refine ⟨⟨names, walks⟩, ?_, rfl⟩
  have read : files = treeFiles after root := by
    have paired := congrArg (List.filterMap fun entry : String × Option File =>
      entry.2.map (entry.1, ·)) same
    rw [filterMap_map, filterMap_map] at paired
    rw [treeFiles, walks]
    simpa [Function.comp_def] using paired.symm
  rw [← read]
  exact (Except.ok.inj scanned).symm

variable {rel : String} {names : List String}

/-- Files below the root are in its tree. -/
lemma mem_treeFiles {contents : File}
    (walks : disk.walkFiles root = .ok names) (plain : IsPlain rel)
    (found : disk.fileAt (join root rel) = some contents) :
    (rel, contents) ∈ treeFiles disk root := by
  have place : resolve (join root rel) = _ := resolve_join plain
  have below : Disk.below (resolve root) (resolve (join root rel)) = true := by
    rw [place, Disk.below_iff]
    cases pieces : Str.split rel '/' with
    | nil => simp [Str.split] at pieces
    | cons first rest => exact ⟨first, rest, rfl⟩
  have listed : rel ∈ names := by
    unfold Disk.walkFiles at walks
    dsimp only at walks
    split at walks
    · cases walks
    · cases walks
      rw [mem_map]
      refine ⟨Str.split rel '/', ?_, ?_⟩
      · rw [(perm_insertionSort _ _).mem_iff, mem_map]
        refine ⟨resolve (join root rel), mem_filter.mpr ⟨?_, below⟩, ?_⟩
        · rw [← AList.mem_keys, ← AList.lookup_isSome, ← Disk.fileAt, found]
          rfl
        · rw [place, drop_left]
      · apply Str.eq_of_toList_eq
        rw [String.toList_intercalate, Str.split, map_map]
        simp [Function.comp_def, intercalate_splitOn]
  rw [treeFiles, walks]
  exact mem_filterMap.mpr ⟨rel, listed, by rw [found]; rfl⟩

variable {file : String × File}

lemma mem_treeFiles_fileAt (mem : file ∈ treeFiles disk root) :
    disk.fileAt (join root file.1) = some file.2 := by
  unfold treeFiles at mem
  split at mem
  · obtain ⟨_, _, made⟩ := mem_filterMap.mp mem
    obtain ⟨_, found, rfl⟩ := Option.map_eq_some_iff.mp made
    exact found
  · cases mem

/-- The names of a walk come from the places of files. -/
lemma mem_walkFiles (walks : disk.walkFiles root = .ok names) (listed : rel ∈ names) :
    ∃ place, (disk.files.lookup place).isSome = true ∧ Disk.below (resolve root) place = true ∧
      rel = String.intercalate "/" (place.drop (resolve root).length) := by
  unfold Disk.walkFiles at walks
  dsimp only at walks
  split at walks
  · cases walks
  · cases walks
    obtain ⟨_, sorted, rfl⟩ := mem_map.mp listed
    obtain ⟨place, kept, rfl⟩ := mem_map.mp ((perm_insertionSort _ _).mem_iff.mp sorted)
    obtain ⟨key, below⟩ := mem_filter.mp kept
    exact ⟨place, AList.lookup_isSome.mpr (AList.mem_keys.mpr key), below, rfl⟩

lemma mem_names_of_mem_treeFiles (walks : disk.walkFiles root = .ok names)
    (mem : file ∈ treeFiles disk root) : file.1 ∈ names := by
  rw [treeFiles, walks] at mem
  obtain ⟨_, listed, made⟩ := mem_filterMap.mp mem
  obtain ⟨_, _, rfl⟩ := Option.map_eq_some_iff.mp made
  exact listed

end Parqonaut.Repair
