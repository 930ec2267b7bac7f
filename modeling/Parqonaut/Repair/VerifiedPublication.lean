import Parqonaut.Repair.Operations
import Parqonaut.Repair.VerifyMeaning

/-!
# Publication and verification

An execution that returns publishes its output whatever the verification said. The outcome is
other than `failed` exactly when the output was intact at the moment of verification. For a remote
source both scans are taken of the repaired directory, and the outcome is never `failed`.
-/

namespace Parqonaut.Repair

open Effects Rust Storage Fallible Disk
open RemoteRequest (Answer)

section

variable {File Schema Batch Remote : Type} {tools : Toolkit File Schema Batch}
  {encode : ExecutionManifest → File} {context : StorageContext File}
  {remote : Service (RemoteRequest File) Answer Remote} {executor : RepairExecutor}
  {plan : RepairPlan} {scan : ScanReport} {truncated : File} {disk after : Disk File}

/-- Local disk next to the backends. -/
abbrev storageService (truncated : File) (remote : Service (RemoteRequest File) Answer Remote) :
    Service (FsRequest File ⊕ RemoteRequest File)
      (SumResp FsRequest.Answer Answer) (Disk File × Remote) :=
  (service truncated).both remote

variable {state final : Disk File × Remote}

lemma returns_onDisk {α : Type} {prog : LocalM File α} {value : α}
    (returns : Returns (storageService truncated remote) (onDisk prog) state value final) :
    Returns (service truncated) prog state.1 value final.1 :=
  (returns_inl.mp returns).1

variable {before afterScan : ScanReport}

lemma verification_returns {beforeRoot afterRoot : String}
    {verified : Option VerificationReport} (asked : executor.verifyBeforePublish = true)
    (returns : Returns (service truncated)
      (verification tools executor plan before afterScan beforeRoot afterRoot) disk verified
      after) :
    ∃ report, verified = some report ∧
      (report.outcome ≠ .failed ↔ Intact tools disk before afterScan) := by
  unfold verification at returns
  rw [if_pos asked] at returns
  obtain ⟨report, _, checked, ended⟩ := returns.of_bind
  cases ended.of_pure
  exact ⟨report, rfl, (verifyRepair_returns checked).1⟩

variable {executionId : String}

lemma recordOutput_returns {output : String} {repaired : Repaired}
    {recorded : ExecutionReport × ExecutionManifest} (asked : executor.verifyBeforePublish = true)
    (returns : Returns (service truncated)
      (recordOutput tools encode executor plan output scan executionId repaired) disk recorded
      after) :
    ∃ report, recorded.2.verification = some report ∧
      (report.outcome ≠ .failed ↔ Intact tools disk scan repaired.afterScan) := by
  obtain ⟨_, _, checked, fingerprinting⟩ := returns.of_bind
  obtain ⟨report, rfl, outcome⟩ := verification_returns asked checked
  obtain ⟨_, _, _, writing⟩ := fingerprinting.of_bind
  obtain ⟨_, _, _, cleaning⟩ := writing.of_bind
  obtain ⟨_, _, _, ended⟩ := cleaning.of_bind
  cases ended.of_pure
  exact ⟨report, rfl, outcome⟩

variable {work : String} {source : DatasetLocation}

lemma beforeScanForSource_reads (returns : Returns (service truncated)
      (beforeScanForSource tools source scan work) disk before after) : after = disk := by
  cases source with
  | localDir => exact (returns_pure.mp returns).2
  | s3 => exact (scanDirectory_returns returns).2

/-- A remote source is compared with the repaired directory itself. -/
lemma intact_beforeScanForSource {later : Disk File} (returns : Returns (service truncated)
      (beforeScanForSource tools source scan work) disk before after)
    (scanned : Returns (service truncated) (scanDirectory tools work) disk afterScan later) :
    Intact tools disk before afterScan ↔
      (∃ root, source = .s3 root) ∨ Intact tools disk scan afterScan := by
  cases source with
  | localDir =>
    cases returns.of_pure
    simp
  | s3 root =>
    obtain rfl := scanDirectory_unique returns scanned
    exact ⟨fun _ => .inl ⟨root, rfl⟩, fun _ => ⟨rfl, id⟩⟩

variable {manifest : ExecutionManifest}

lemma verifyStaged_returns {staged : StagedRepair} (asked : executor.verifyBeforePublish = true)
    (returns : Returns (service truncated)
      (verifyStaged tools executor plan scan executionId staged) disk manifest after) :
    ∃ afterScan, Returns (service truncated) (scanDirectory tools staged.work) disk afterScan disk ∧
      ∃ report, manifest.verification = some report ∧ (report.outcome ≠ .failed ↔
          (∃ root, staged.source = .s3 root) ∨ Intact tools disk scan afterScan) := by
  obtain ⟨_, _, beforeScanned, scanning⟩ := returns.of_bind
  obtain rfl := beforeScanForSource_reads beforeScanned
  obtain ⟨afterScan, _, afterScanned, verifying⟩ := scanning.of_bind
  obtain rfl := (scanDirectory_returns afterScanned).2
  obtain ⟨_, _, checked, fingerprinting⟩ := verifying.of_bind
  obtain ⟨report, rfl, outcome⟩ := verification_returns asked checked
  obtain ⟨_, _, _, ended⟩ := fingerprinting.of_bind
  cases ended.of_pure
  exact ⟨afterScan, afterScanned, report, rfl,
    outcome.trans (intact_beforeScanForSource beforeScanned afterScanned)⟩

/-- A verification that passes has recorded no failed invariant exactly if schemas, files and
fingerprint of an intact output are as they should be. -/
theorem verified_passes_iff {beforeRoot afterRoot : String} {policy : RepairPolicy}
    {manifest : Option ExecutionManifest} {report : VerificationReport}
    (returns : Returns (service truncated)
      (verifyRepair tools before afterScan beforeRoot afterRoot policy manifest) disk report
      after) :
    (report.outcome ≠ .failed → ∀ result ∈ report.invariantResults, result.passed = true) ↔
      (Intact tools disk before afterScan →
        Recorded tools (inventoryOf tools disk beforeRoot before)
          (inventoryOf tools disk afterRoot afterScan) manifest) := by
  rw [(verifyRepair_returns returns).1, (verifyRepair_returns returns).2]
  constructor
  · intro passes intact
    exact (passes intact).2
  · intro recorded intact
    exact ⟨intact.1, recorded intact⟩

variable [DecidableEq Schema]

lemma executeStorageRecorded_returns {output : DatasetLocation} {runId : String}
    {report : ExecutionReport}
    (returns : Returns (storageService truncated remote)
      (executeStorageRecorded tools context encode executor plan output scan runId executionId)
      state (some (report, manifest)) final) :
    ∃ staged mid later, Returns (storageService truncated remote)
        (repairInStaging tools context executor plan output scan executionId) state (some staged)
        mid ∧
      Returns (service truncated)
        (verifyStaged tools executor plan scan executionId staged) mid.1 manifest later := by
  obtain ⟨repaired, mid, staging, rest⟩ := returns.of_bind
  cases repaired with
  | none => cases (returns_pure.mp rest).1
  | some staged =>
    obtain ⟨_, later, verified, publishing⟩ := rest.of_bind
    obtain ⟨_, _, _, cleaning⟩ := publishing.of_bind
    obtain ⟨_, _, _, ended⟩ := cleaning.of_bind
    cases (returns_pure.mp ended).1
    exact ⟨staged, mid, later.1, staging, returns_onDisk verified⟩

end

/-! ## Runs on a small dataset -/

namespace Reference

open Storage.Reference

/-- Parquet files whose rows are the characters of a text. -/
def tools : Toolkit Payload Unit Char :=
  .ofRows (fun rows => .contents (String.ofList rows)) fun file => match file with
    | .contents text => text.toList
    | _ => []

/-- A disk with the given files in the directory `/d`. -/
def diskOf (entries : List (String × String)) : Disk Payload where
  files := (entries.map fun entry =>
    (⟨["/", "d", entry.1], .contents entry.2⟩ : Sigma fun _ : List String => Payload)).toAList
  dirs := [["/", "d"]]

def scanOf (names : List String) : ScanReport where
  assets := names.map fun name => ⟨Path.join "/d" name, .parquet, 1, none⟩
  findings := []

/-- Verification of an output without files for a source without rows. -/
def emptied : LocalM Payload VerificationReport :=
  verifyRepair tools (scanOf ["a"]) (scanOf []) "/d" "/o" .standard none

lemma emptied_returns : ∃ report after, Returns (service tools.created) emptied
      (diskOf [("a", "")]) report after ∧
    decide (report.outcome = .verified ∧ ∃ result ∈ report.invariantResults,
      result.passed = false) = true :=
  exists_returns_of_eval (by decide +kernel)

theorem verified_without_files : ¬∀ report after, Returns (service tools.created) emptied
      (diskOf [("a", "")]) report after → report.outcome ≠ .failed →
    ∀ result ∈ report.invariantResults, result.passed = true := by
  intro claim
  obtain ⟨report, after, returns, run⟩ := emptied_returns
  obtain ⟨verified, result, mem, fails⟩ := of_decide_eq_true run
  have passed := claim report after returns (by simp [verified]) result mem
  simp [fails] at passed

theorem emptied_passes_iff : ∃ report after, Returns (service tools.created) emptied
      (diskOf [("a", "")]) report after ∧
    ((report.outcome ≠ .failed → ∀ result ∈ report.invariantResults, result.passed = true) ↔
      (Intact tools (diskOf [("a", "")]) (scanOf ["a"]) (scanOf []) →
        Recorded tools (inventoryOf tools (diskOf [("a", "")]) "/d" (scanOf ["a"]))
          (inventoryOf tools (diskOf [("a", "")]) "/o" (scanOf [])) none)) := by
  obtain ⟨report, after, returns, _⟩ := emptied_returns
  exact ⟨report, after, returns, verified_passes_iff returns⟩

/-- A plan for `/d` with the given fingerprint. -/
def planOf (digest : String) (operations : List RepairOperation) : RepairPlan where
  schemaVersion := PLAN_SCHEMA_VERSION
  planId := "p"
  datasetRoot := "/d"
  datasetFingerprint := ⟨FINGERPRINT_VERSION, "/d", [], digest⟩
  policyFingerprint := "f"
  repairPolicy := .standard
  operations := operations

/-- Executor as it is configured by default. -/
def verifying : RepairExecutor := ⟨⟨[]⟩, true⟩

def encodeManifest : ExecutionManifest → Payload := fun manifest => .contents manifest.planId

def remotes : Service (RemoteRequest Payload) Answer (Store Payload × Store Payload) :=
  s3.service.both s3.service

def remoteContext : StorageContext Payload where
  parse := fun path => .ok (.localDir ⟨path⟩)
  tempDir := "/t"
  serde := serde
  capabilities := .s3
  inventoryPages := 1

lemma storage_returns : ∃ recorded final, Returns (storageService tools.created remotes)
      (executeStorageRecorded tools remoteContext encodeManifest verifying (planOf "a" [])
        (.s3 location) (scanOf ["a"]) "v" "x") (diskOf [("a", "xy")], empty, empty) recorded
      final ∧
    recorded.isSome = true :=
  exists_returns_of_eval (by decide +kernel)

/-- `a.parqonaut-tmp.parquet` is a file of the dataset and also the temporary file of the
rewrite of `a.parquet`. -/
def clobberPlan : RepairPlan :=
  planOf "a.parqonaut-tmp.parquet,a.parquet" [⟨"op", .safe, .recompress "zstd" ["a.parquet"], []⟩]

def clobberScan : ScanReport := scanOf ["a.parquet", "a.parqonaut-tmp.parquet"]

def clobberDisk : Disk Payload :=
  diskOf [("a.parquet", "xy"), ("a.parqonaut-tmp.parquet", "z")]

lemma clobber_returns : ∃ recorded final, Returns (service tools.created)
      (executeRecorded tools encodeManifest verifying clobberPlan "/o" clobberScan "x") clobberDisk
      recorded final ∧
    decide (recorded.2.verification.map (·.outcome) = some .failed) = true :=
  exists_returns_of_eval (by decide +kernel)

end Reference

end Parqonaut.Repair
