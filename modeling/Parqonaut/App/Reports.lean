import Mathlib.Data.Finset.Sort
import Mathlib.Data.String.Basic

/-!
# Scan reports

`apply_redaction_policy` and `diff_reports` of `run.rs`.
-/

namespace Parqonaut.Report

variable {Json : Type}

/-- A finding; evidence is given by its payload, the fingerprint by its digest. -/
structure Finding (Json : Type) where
  id : String
  evidence : List (Option Json)
  fingerprint : Option String

structure AssetRecord (Json : Type) where
  failureMessage : Option String
  probe : Option Json
  inspectionHints : Option Json

/-- Counters of a `ScanSummary` that are compared. -/
inductive Counter where
  | discoveredAssets | inspectedAssets | failedInspectionAssets | skippedInspectionAssets
  | datasetMemberAssets | datasetCount | findingsTotal

/-- A report; a dataset is given by its id. -/
structure ScanReport (Json : Type) where
  summary : Counter → Nat
  assets : List (AssetRecord Json)
  datasets : List String
  findings : List (Finding Json)

structure RedactionPolicy where
  stripProbeInspectionHints : Bool
  stripProbeMetadata : Bool
  stripFindingEvidencePayloads : Bool
  truncateFailureMessagesTo : Option Nat

def redactAsset (policy : RedactionPolicy) (asset : AssetRecord Json) : AssetRecord Json where
  failureMessage := match policy.truncateFailureMessagesTo with
    | some max => asset.failureMessage.map fun message => .ofList (message.toList.take max)
    | none => asset.failureMessage
  probe := if policy.stripProbeMetadata then none else asset.probe
  inspectionHints := if policy.stripProbeInspectionHints then none else asset.inspectionHints

def stripPayloads (finding : Finding Json) : Finding Json :=
  { finding with evidence := finding.evidence.map fun _ => none }

def applyRedactionPolicy (report : ScanReport Json) (policy : RedactionPolicy) : ScanReport Json :=
  { report with
    assets := report.assets.map (redactAsset policy)
    findings := if policy.stripFindingEvidencePayloads then report.findings.map stripPayloads
      else report.findings }

/-- Name that a finding is compared by. -/
def fingerprintOf (finding : Finding Json) : String :=
  finding.fingerprint.getD ("fallback:" ++ finding.id)

def findingFingerprints (report : ScanReport Json) : Finset String :=
  (report.findings.map fingerprintOf).toFinset

def datasetIds (report : ScanReport Json) : Finset String := report.datasets.toFinset

/-- `i64::try_from(count).unwrap_or(0)`. -/
def asI64 (count : Nat) : Int := if count < 2 ^ 63 then count else 0

structure RunDiff where
  runA : String
  runB : String
  findingsAdded : List String
  findingsRemoved : List String
  datasetsAdded : List String
  datasetsRemoved : List String
  summaryDelta : Counter → Int

def diffReports (runA runB : String) (a b : ScanReport Json) : RunDiff where
  runA := runA
  runB := runB
  findingsAdded := (findingFingerprints b \ findingFingerprints a).sort
  findingsRemoved := (findingFingerprints a \ findingFingerprints b).sort
  datasetsAdded := (datasetIds b \ datasetIds a).sort
  datasetsRemoved := (datasetIds a \ datasetIds b).sort
  summaryDelta := fun counter => asI64 (b.summary counter) - asI64 (a.summary counter)

/-- Difference read the other way round. -/
def RunDiff.swap (diff : RunDiff) : RunDiff :=
  ⟨diff.runB, diff.runA, diff.findingsRemoved, diff.findingsAdded, diff.datasetsRemoved,
    diff.datasetsAdded, fun counter => -diff.summaryDelta counter⟩

lemma findingFingerprints_redacted (report : ScanReport Json) (policy : RedactionPolicy) :
    findingFingerprints (applyRedactionPolicy report policy) = findingFingerprints report := by
  rw [findingFingerprints, applyRedactionPolicy]
  dsimp only
  split
  · rw [List.map_map]
    rfl
  · rfl

/-- Differences are antisymmetric, those of a report with itself are empty, and redaction does
not change them. -/
theorem diffReports_laws (runA runB : String) (a b : ScanReport Json) (p q : RedactionPolicy) :
    let diff := diffReports runA runB a b
    diffReports runB runA b a = diff.swap ∧
    diff.findingsAdded.Disjoint diff.findingsRemoved ∧
    diff.datasetsAdded.Disjoint diff.datasetsRemoved ∧
    diffReports runA runB a a = ⟨runA, runB, [], [], [], [], fun _ => 0⟩ ∧
    diffReports runA runB (applyRedactionPolicy a p) (applyRedactionPolicy b q) = diff := by
  have apart (s t : Finset String) : (s \ t).sort.Disjoint (t \ s).sort := by
    intro name added removed
    rw [Finset.mem_sort, Finset.mem_sdiff] at added removed
    exact added.2 removed.1
  refine ⟨?_, apart (findingFingerprints b) (findingFingerprints a),
    apart (datasetIds b) (datasetIds a), ?_, ?_⟩
  · simp [diffReports, RunDiff.swap, Int.neg_sub]
  · simp [diffReports]
  · rw [diffReports, findingFingerprints_redacted, findingFingerprints_redacted]
    rfl

end Parqonaut.Report
