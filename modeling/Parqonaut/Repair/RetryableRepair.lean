import Parqonaut.Orchestrator.State
import Parqonaut.Repair.WritesBelow

/-!
# Repeating a failed repair

`execute` refuses to run when its output path exists, and makes the output directory before it
copies, scans, verifies and records. A run that fails or dies can be repeated exactly as long as
`fs::create_dir_all` of the output has not succeeded.

Runs are looked at call by call; a record beside the disk notes whether the directory was made.
-/

namespace Parqonaut.Repair

open Effects Rust Fallible Path FsRequest

variable {File Schema Batch : Type}

/-! ## Calls that only read -/

/-- Calls that change nothing. -/
def FsReads : FsRequest File → Prop
  | .exists _ | .isFile _ | .read _ | .walkFiles _ => True
  | _ => False

/-- Errors other than the refusal to run. -/
def OtherError (error : RepairError) : Prop := ∀ path, error ≠ .outputExists path

section

variable {allowed : FsRequest File → Prop} {errors : RepairError → Prop}

lemma raises_fsCall (request : FsRequest File) (allows : allowed request)
    (raised : ∀ message, errors (.io message)) : Raises allowed errors (fsCall request) := by
  apply raises_request_bind allows
  intro answer
  cases answer with
  | ok => exact raises_pure
  | error => exact raises_throw (raised _)

lemma raises_liftResult {α ε : Type} {convert : ε → RepairError} {result : Except ε α}
    (raised : ∀ error, result = .error error → errors (convert error)) :
    Raises allowed errors (liftResult convert result : LocalM File α) := by
  cases result with
  | ok => exact raises_pure
  | error error => exact raises_throw (raised error rfl)

end

section

variable {tools : Toolkit File Schema Batch}

lemma otherError_io (message : String) : OtherError (.io message) := by
  rintro _ ⟨⟩

lemma inspectParquetFile_raises (path : String) :
    Raises FsReads OtherError (inspectParquetFile tools path) := by
  apply raises_request_bind trivial
  intro answer
  cases answer with
  | error => exact raises_throw (by rintro _ ⟨⟩)
  | ok =>
    dsimp only
    split
    · exact raises_pure
    · exact raises_throw (by rintro _ ⟨⟩)

lemma inspectAsset_raises (asset : AssetRecord) :
    Raises FsReads OtherError (inspectAsset tools asset) := by
  refine raises_bind (raises_fsCall (.isFile _) trivial otherError_io) fun found => ?_
  split
  · exact inspectParquetFile_raises _
  · split
    · exact raises_pure
    · split
      · exact raises_throw (by rintro _ ⟨⟩)
      · exact inspectParquetFile_raises _

lemma inspectAssets_raises (assets : List AssetRecord) :
    Raises FsReads OtherError (inspectAssets tools assets) := by
  induction assets with
  | nil => exact raises_pure
  | cons asset _ ih =>
    exact raises_bind (inspectAsset_raises asset) fun _ =>
      raises_bind ih fun _ => raises_pure

lemma fromScanReport_raises (root : String) (report : ScanReport) :
    Raises FsReads OtherError (fromScanReport tools root report) :=
  raises_bind (inspectAssets_raises _) fun _ => raises_pure

lemma computeFingerprintFromScan_raises (root : String) (report : ScanReport) :
    Raises FsReads OtherError (computeFingerprintFromScan tools root report) :=
  raises_bind (fromScanReport_raises root report) fun _ => raises_pure

lemma diagnose_raises (root : String) (report : ScanReport) (policy : RepairPolicy) :
    Raises FsReads OtherError (diagnose tools root report policy) := by
  refine raises_bind (fromScanReport_raises root report) fun inventory => ?_
  split <;> exact raises_pure

lemma verification_raises (executor : RepairExecutor) (plan : RepairPlan)
    (before after : ScanReport) (beforeRoot afterRoot : String) : Raises FsReads OtherError
      (verification tools executor plan before after beforeRoot afterRoot) := by
  rw [verification]
  split
  · refine raises_bind ?_ fun _ => raises_pure
    refine raises_bind (fromScanReport_raises _ _) fun _ => ?_
    refine raises_bind (fromScanReport_raises _ _) fun _ => ?_
    refine raises_bind raises_pure fun _ => ?_
    refine raises_bind (diagnose_raises _ _ _) fun _ => ?_
    refine raises_bind (diagnose_raises _ _ _) fun _ => ?_
    exact raises_bind raises_pure fun _ => raises_pure
  · exact raises_pure

lemma readFiles_raises (root : String) (names : List String) :
    Raises FsReads OtherError (readFiles root names : LocalM File _) := by
  induction names with
  | nil => exact raises_pure
  | cons _ _ ih =>
    exact raises_bind (raises_fsCall (.read _) trivial otherError_io) fun _ =>
      raises_bind ih fun _ => raises_pure

lemma scanDirectory_raises (path : String) :
    Raises FsReads OtherError (scanDirectory tools path) := by
  refine raises_bind (raises_fsCall (.walkFiles _) trivial otherError_io) fun names => ?_
  refine raises_bind (readFiles_raises path names) fun files => ?_
  exact raises_liftResult fun error _ => by rintro _ ⟨⟩

end

/-! ## Two halves of an execution -/

def stagingOf (output executionId : String) : String :=
  stagingPath ((parent output).getD ".") executionId

def workOf (output executionId : String) : String :=
  join (stagingOf output executionId) "work"

section

variable (tools : Toolkit File Schema Batch) [DecidableEq Schema]
  (encode : ExecutionManifest → File) (executor : RepairExecutor) (plan : RepairPlan)
  (output : String) (scan : ScanReport) (executionId : String)

/-- Repair a copy of the dataset in the staging directory. -/
def repairStaged : LocalM File RepairOperationOutcome := do
  fsCall (.createDirAll (workOf output executionId))
  let working ← seedWorkDir plan.datasetRoot (workOf output executionId) scan
  runOrRetain tools executor plan plan.datasetRoot (stagingOf output executionId)
    (workOf output executionId) working

/-- Copy the repaired files to the output directory, verify and record them. -/
def fillOutput (outcome : RepairOperationOutcome) :
    LocalM File (ExecutionReport × ExecutionManifest) := do
  copyWorkToOutput (workOf output executionId) output
  let afterScan ← scanDirectory tools output
  recordOutput tools encode executor plan output scan executionId
    ⟨stagingOf output executionId, outcome, afterScan⟩

lemma executeRecorded_eq : executeRecorded tools encode executor plan output scan executionId = (do
      checkExecution tools plan output scan
      let outcome ← repairStaged tools executor plan output scan executionId
      fsCall (.createDirAll output)
      fillOutput tools encode executor plan output scan executionId outcome) := by
  simp only [executeRecorded, repairToOutput, repairStaged, fillOutput, bind_assoc, pure_bind]
  rfl

end

section

variable {tools : Toolkit File Schema Batch} [DecidableEq Schema]
  {encode : ExecutionManifest → File} {executor : RepairExecutor} {plan : RepairPlan}
  {output : String} {scan : ScanReport} {executionId : String} {allowed : FsRequest File → Prop}

lemma createParent_raises (path : String)
    (creates : ∀ above, parent path = some above → allowed (.createDirAll above)) :
    Raises allowed OtherError (createParent path) := by
  rw [createParent]
  split
  · rename_i above parent
    exact raises_fsCall _ (creates above parent) otherError_io
  · exact raises_pure

lemma seedWorkDir_raises (root work : String) :
    Raises (fun _ => True) OtherError (seedWorkDir root work scan : LocalM File _) := by
  rw [seedWorkDir]
  generalize (∅ : Working) = working
  induction scan.assets generalizing working with
  | nil => exact raises_pure
  | cons _ _ ih =>
    rw [seedAssets]
    split
    · exact ih working
    · refine raises_bind (createParent_raises _ fun _ _ => trivial) fun _ => ?_
      exact raises_bind (raises_fsCall _ trivial otherError_io) fun _ => ih _

lemma repairStaged_raises : Raises (fun _ => True) OtherError
    (repairStaged tools executor plan output scan executionId) := by
  refine raises_bind (raises_fsCall _ trivial otherError_io) fun _ => ?_
  refine raises_bind (seedWorkDir_raises _ _) fun working => ?_
  refine raises_attempt_bind (promises_true) fun result => ?_
  cases result with
  | ok => exact raises_pure
  | error => exact raises_throw (by rintro _ ⟨⟩)

/-- The calls after the output directory is made. -/
def KeepsStaged (staging : String) (request : FsRequest File) : Prop :=
  ∀ path, request = .removeDirAll path → path = staging

lemma FsReads.keepsStaged {staging : String} {request : FsRequest File}
    (reads : FsReads request) : KeepsStaged staging request := by
  rintro _ rfl
  exact reads.elim

omit [DecidableEq Schema] in
lemma fillOutput_raises (outcome : RepairOperationOutcome) :
    Raises (KeepsStaged (stagingOf output executionId)) OtherError
      (fillOutput tools encode executor plan output scan executionId outcome) := by
  have copies : ∀ names, Raises (KeepsStaged (stagingOf output executionId)) OtherError
      (copyFiles (workOf output executionId) output names : LocalM File Unit) := by
    intro names
    induction names with
    | nil => exact raises_pure
    | cons _ _ ih =>
      refine raises_bind (createParent_raises _ ?_) fun _ =>
        raises_bind (raises_fsCall (.copy _ _) ?_ otherError_io) fun _ => ih
      · rintro _ - path ⟨⟩
      · rintro path ⟨⟩
  have reads : ∀ {α : Type} {prog : LocalM File α}, Raises FsReads OtherError prog →
      Raises (KeepsStaged (stagingOf output executionId)) OtherError prog :=
    fun raises => raises.allow fun _ => FsReads.keepsStaged
  refine raises_bind (raises_bind ?_ copies) fun _ => ?_
  · exact reads (raises_fsCall (.walkFiles _) trivial otherError_io)
  refine raises_bind (reads (scanDirectory_raises output)) fun afterScan => ?_
  refine raises_bind (reads (verification_raises _ _ _ _ _ _)) fun verified => ?_
  refine raises_bind (reads (computeFingerprintFromScan_raises _ _)) fun outputFp => ?_
  refine raises_bind (raises_fsCall (.write _ _) ?_ otherError_io) fun _ => ?_
  · rintro _ ⟨⟩
  refine raises_bind (raises_request_bind ?_ fun _ => raises_pure) fun _ => raises_pure
  rintro _ ⟨⟩
  rfl

/-! ## Before the output directory is made -/

/-- The names that a repair takes from the scan and the plan stay below its working directory, and
its output is apart from its staging. -/
structure StaysApart (plan : RepairPlan) (output : String) (scan : ScanReport)
    (executionId : String) : Prop where
  assets : ∀ asset ∈ scan.assets, asset.format = .parquet →
    Inside (relativize plan.datasetRoot asset.path)
  splits : ∀ op ∈ plan.operations, SplitInside op
  outputAbove : ¬ resolve output <+: resolve (workOf output executionId)
  outputBelow : ¬ resolve (stagingOf output executionId) <+: resolve output

lemma StaysApart.outside (apart : StaysApart plan output scan executionId) :
    ¬ resolve (workOf output executionId) <+: resolve output := by
  have isName : IsName "work" := by decide
  obtain ⟨_, _, below, -⟩ :=
    (inside_of_isName isName).beneath_join (stagingOf output executionId)
  intro inside
  apply apart.outputBelow
  rw [workOf, below] at inside
  exact (List.prefix_append _ _).trans inside

lemma StaysApart.ne_output (apart : StaysApart plan output scan executionId) {place : List String}
    (below : AtOrBeneath (resolve (workOf output executionId)) place) :
    place ≠ resolve output := by
  intro same
  rcases below with equal | ⟨_, _, inside, -⟩
  · apply apart.outputAbove
    rw [← same, equal]
  · apply apart.outside
    rw [← same, inside]
    exact List.prefix_append _ _

variable {context : OperationAuditContext} {root work : String} {working : Working}

lemma runSorted_confined {ops : List RepairOperation} (inside : ∀ op ∈ ops, SplitInside op)
    (below : WorkingBelow work working) (outcome : RepairOperationOutcome) :
    Asks (Confined work) (fun _ => True)
      (runSorted tools executor context root work ops working outcome) := by
  induction ops generalizing working outcome with
  | nil => exact asks_pure trivial
  | cons op _ ih =>
    have applies : Asks (Confined work) (WorkingBelow work)
        (runOperation tools executor root work op working) := by
      rw [runOperation]
      split
      · exact applyOperation_confined tools (inside op List.mem_cons_self) root work below
      · exact asks_pure below
    exact asks_bind applies fun next kept =>
      ih (fun other mem => inside other (List.mem_cons_of_mem op mem)) kept _

lemma runRepairOperations_confined (inside : ∀ op ∈ plan.operations, SplitInside op)
    (below : WorkingBelow work working) :
    Asks (Confined work) (fun _ => True)
      (runRepairOperations tools executor plan root work working context) := by
  rw [runRepairOperations]
  cases sorts : sortByDependencies plan.operations with
  | ok =>
    exact runSorted_confined (fun op mem => inside op (mem_of_sortByDependencies sorts mem)) below _
  | error => exact asks_throw

lemma repairStaged_confined (apart : StaysApart plan output scan executionId) :
    Asks (Confined (workOf output executionId)) (fun _ => True)
      (repairStaged tools executor plan output scan executionId) := by
  refine asks_bind (asks_fsCall _ (confined_createDirAll (.inl rfl))) fun _ _ => ?_
  refine asks_bind (seedWorkDir_confined apart.assets) fun working below => ?_
  refine asks_attempt_bind (runRepairOperations_confined apart.splits below) ?_
  intro result
  cases result with
  | ok => exact asks_pure trivial
  | error => exact asks_throw

omit [DecidableEq Schema] in
lemma checkExecution_confined : Asks (Confined work) (fun _ => True)
      (checkExecution tools plan output scan) := by
  have reads : ∀ request : FsRequest File, FsReads request → request.Confined work := by
    intro request reads
    refine ⟨fun place touched => ?_, ?_⟩
    · cases request <;> first | exact touched.elim | exact reads.elim
    · rintro _ rfl
      exact reads.elim
  have lifts : ∀ result : Except RepairError Unit, Asks (Confined work)
      (fun _ => True) (liftResult id result : LocalM File Unit) := by
    rintro (_ | _)
    · exact asks_throw
    · exact asks_pure trivial
  refine asks_bind (lifts _) fun _ _ => ?_
  refine asks_bind (asks_fsCall _ (reads (.exists output) trivial)) fun found _ => ?_
  split
  · exact asks_throw
  split
  · exact asks_throw
  · exact asks_bind ((computeFingerprintFromScan_raises _ _).allow reads).asks fun _ _ => lifts _

/-! ## Every point of a run -/

/-- Note that `fs::create_dir_all` of the output succeeded. -/
def notesOutput (output : String) : (request : FsRequest File) → request.Answer → Bool
  | .createDirAll path, .ok _ => path = output
  | _, _ => false

/-- A file system on which the creation of the output directory is noted. -/
def watched (truncated : File) (output : String) :
    Service (FsRequest File) Answer (Disk File × Bool) :=
  (Disk.service truncated).watch (notesOutput output)

/-- The output exists exactly if its creation was noted. -/
def Noted (output : String) (now : Disk File × Bool) : Prop :=
  now.1.Present output ↔ now.2 = true

def OutputAbsent (output : String) (now : Disk File × Bool) : Prop :=
  ¬ now.1.Present output ∧ now.2 = false

def OutputMade (output : String) (now : Disk File × Bool) : Prop :=
  now.1.isDir (resolve output) = true ∧ now.2 = true

variable {now : Disk File × Bool}

lemma OutputAbsent.noted (absent : OutputAbsent output now) : Noted output now := by
  simp [Noted, absent.1, absent.2]

lemma OutputMade.noted (made : OutputMade output now) : Noted output now := by
  simp [Noted, Disk.Present, made.1, made.2]

variable {truncated : File} {before after : Disk File × Bool} {request : FsRequest File}
  {answer : request.Answer}

lemma StaysApart.keeps_absent (apart : StaysApart plan output scan executionId)
    (answers : (watched truncated output).Answers request before answer after)
    (confined : request.Confined (workOf output executionId))
    (absent : OutputAbsent output before) : OutputAbsent output after := by
  obtain ⟨moved, noted⟩ := answers.of_watch
  refine ⟨Disk.not_present_of_answers moved confined apart.outputAbove apart.outside absent.1, ?_⟩
  have unnoted : notesOutput output request answer = false := by
    cases request with
    | createDirAll path =>
      have different : path ≠ output := fun same =>
        apart.ne_output (confined.2 path rfl) (congrArg resolve same)
      cases answer <;> simp [notesOutput, different]
    | _ => rfl
  rcases noted with served | ⟨-, same⟩
  · rw [served, unnoted, absent.2]
    rfl
  · rw [same, absent.2]

lemma StaysApart.keeps_made (apart : StaysApart plan output scan executionId)
    (answers : (watched truncated output).Answers request before answer after)
    (keeps : KeepsStaged (stagingOf output executionId) request)
    (made : OutputMade output before) : OutputMade output after := by
  obtain ⟨moved, noted⟩ := answers.of_watch
  constructor
  · refine Disk.isDir_of_answers moved ?_ made.1
    intro path removes
    rw [keeps path removes]
    exact apart.outputBelow
  · rcases noted with served | ⟨-, same⟩
    · rw [served, made.2]
      rfl
    · rw [same, made.2]

/-- An attempt to make the output directory makes it, or leaves the output absent. -/
lemma createOutput_cases {answer : Except IoError Unit}
    (answers : (watched truncated output).Answers (.createDirAll output) before answer after)
    (absent : OutputAbsent output before) :
    (answer = .ok () ∧ OutputMade output after) ∨
      (∃ error, answer = .error error) ∧ OutputAbsent output after := by
  obtain ⟨moved, noted⟩ := answers.of_watch
  cases answer with
  | ok =>
    refine .inl ⟨rfl, Disk.isDir_of_createDirAll moved, ?_⟩
    rcases noted with served | ⟨⟨_, never⟩, -⟩
    · simp [served, notesOutput]
    · cases never
  | error error =>
    refine .inr ⟨⟨error, rfl⟩, ?_, ?_⟩
    · have same : after.1 = before.1 := by
        rcases moved with served | ⟨-, same⟩
        · have failed : before.1.createDirAll output = (.error error, after.1) := served.symm
          rw [Disk.createDirAll] at failed
          split at failed
          · exact (congrArg Prod.snd failed).symm
          · cases failed
        · exact same
      rw [same]
      exact absent.1
    · rcases noted with served | ⟨-, same⟩
      · rw [served, absent.2]
        rfl
      · rw [same, absent.2]

lemma executeRecorded_noted (apart : StaysApart plan output scan executionId)
    (absent : OutputAbsent output before) :
    (executeRecorded tools encode executor plan output scan executionId).run.wp
      (watched truncated output) (fun _ after => Noted output after) (fun _ _ => True) before := by
  have stays : ∀ {α : Type} {prog : LocalM File α} {now : Disk File × Bool},
      Asks (Confined (workOf output executionId)) (fun _ => True) prog →
      OutputAbsent output now → prog.run.wp (watched truncated output)
        (fun _ after => Noted output after) (fun _ after => OutputAbsent output after) now := by
    intro α _ _ asks absent
    refine Program.wp_mono (fun _ _ ended => ended.2) (Program.Asks.wp_invariant asks ?_
      (fun _ => OutputAbsent.noted) absent)
    intro _ _ answer _ confined answers absent
    exact apart.keeps_absent answers confined absent
  rw [executeRecorded_eq, wp_bind]
  refine Program.wp_mono ?_ (stays checkExecution_confined absent)
  rintro (error | ⟨⟩) _ absent
  · trivial
  dsimp only
  rw [wp_bind]
  refine Program.wp_mono ?_ (stays (repairStaged_confined apart) absent)
  rintro (_ | outcome) _ absent
  · trivial
  dsimp only
  rw [run_fsCall_bind, Program.wp_call]
  intro _ _ answers
  rcases createOutput_cases answers absent with ⟨rfl, made⟩ | ⟨⟨_, rfl⟩, absent⟩
  · refine ⟨made.noted, Program.wp_mono (fun _ _ _ => trivial) (Program.Asks.wp_invariant
      (fillOutput_raises outcome).asks ?_ (fun _ => OutputMade.noted) made)⟩
    intro _ _ _ _ keeps answers made
    exact apart.keeps_made answers keeps made
  · exact ⟨absent.noted, Program.wp_done.mpr trivial⟩

end

/-! ## Second attempt -/

section

variable (tools : Toolkit File Schema Batch) (encode : ExecutionManifest → File) (truncated : File)
  (executor : RepairExecutor) (plan : RepairPlan) (output : String) (scan : ScanReport)
  (executionId : String)

/-- A run of `execute` is refused since the output exists, which the batch executor takes for a
permanent failure. -/
def TurnedAway [DecidableEq Schema] (disk : Disk File) : Prop :=
  ∃ error final, Fails (Disk.service truncated)
      (execute tools encode executor plan output scan executionId) disk error final ∧
    error = .outputExists output ∧ Orchestrator.classifyRepairError error = .permanent

variable {tools encode truncated executor plan output scan executionId} {disk final : Disk File}

lemma raises_checkFingerprint (root : String) (recorded : DatasetFingerprint) :
    Raises FsReads OtherError (do
      let current ← computeFingerprintFromScan tools root scan
      liftResult id (recorded.verifyAgainst current)) := by
  refine raises_bind (computeFingerprintFromScan_raises _ _) fun current => ?_
  apply raises_liftResult
  intro _ changed
  rw [DatasetFingerprint.verifyAgainst] at changed
  split at changed
  · cases changed
    rintro _ ⟨⟩
  · cases changed

/-- The checks refuse to run for the output exactly if it exists. -/
lemma checkExecution_fails_iff (version : plan.validateVersion = .ok ()) :
    (∃ final, Fails (Disk.service truncated) (checkExecution tools plan output scan) disk
      (.outputExists output) final) ↔ disk.Present output := by
  rw [checkExecution, version]
  constructor
  · rintro ⟨_, fails⟩
    rcases fails_bind.mp fails with never | ⟨_, _, versions, checks⟩
    · cases (Program.ends_done.mp never).1
    obtain ⟨-, rfl⟩ := returns_pure.mp versions
    rcases fails_bind.mp checks with asks | ⟨_, _, asked, rest⟩
    · have raises : Raises (fun _ => True) OtherError
          (fsCall (.exists output) : LocalM File Bool) := raises_fsCall _ trivial otherError_io
      exact (raises.of_fails asks output rfl).elim
    cases serve_of_returns_fsCall asked
    split at rest
    · rename_i present
      exact present
    · split at rest
      · cases (fails_throw.mp rest).1
      · exact ((raises_checkFingerprint _ _).of_fails rest output rfl).elim
  · intro present
    refine ⟨disk, fails_bind.mpr (.inr ⟨(), disk, returns_value,
      fails_bind.mpr (.inr ⟨true, disk, ?_, ?_⟩)⟩)⟩
    · refine returns_request_bind.mpr ⟨.ok true, disk, .inl ?_, returns_value⟩
      rw [Disk.Present] at present
      simp [Disk.service, Disk.serve, present]
    · exact fails_throw.mpr ⟨rfl, rfl⟩

variable [DecidableEq Schema]

lemma turnedAway_iff (version : plan.validateVersion = .ok ()) :
    TurnedAway tools encode truncated executor plan output scan executionId disk ↔
      disk.Present output := by
  rw [← checkExecution_fails_iff version]
  constructor
  · rintro ⟨_, final, fails, rfl, -⟩
    rw [execute, executeRecorded_eq] at fails
    rcases fails_bind.mp fails with fails | ⟨_, _, _, ended⟩
    · rcases fails_bind.mp fails with checks | ⟨_, _, _, fails⟩
      · exact ⟨final, checks⟩
      rcases fails_bind.mp fails with staged | ⟨outcome, _, _, fails⟩
      · exact (repairStaged_raises.of_fails staged output rfl).elim
      rcases fails_bind.mp fails with creates | ⟨_, _, _, fills⟩
      · have raises : Raises (fun _ => True) OtherError
            (fsCall (.createDirAll output) : LocalM File Unit) :=
          raises_fsCall _ trivial otherError_io
        exact (raises.of_fails creates output rfl).elim
      · exact ((fillOutput_raises outcome).of_fails fills output rfl).elim
    · cases (Program.ends_done.mp ended).1
  · rintro ⟨final, checks⟩
    refine ⟨_, final, ?_, rfl, rfl⟩
    rw [execute, executeRecorded_eq]
    exact fails_bind.mpr (.inl (fails_bind.mpr (.inl checks)))

/-- At every point of every run of `execute`, failing calls included, the output exists exactly if
its directory was made, and a second execution is refused for it exactly then. -/
theorem refused_iff_output_made (version : plan.validateVersion = .ok ())
    (absent : ¬ disk.Present output) (apart : StaysApart plan output scan executionId)
    {rest : Program (FsRequest File) Answer (Except RepairError ExecutionReport)}
    {left : Disk File} {made : Bool}
    (reached : Relation.ReflTransGen (Program.Step (watched truncated output))
      ((execute tools encode executor plan output scan executionId).run, (disk, false))
      (rest, (left, made))) :
    (left.Present output ↔ made = true) ∧
      ∀ (second : RepairExecutor) (again : ScanReport) (newId : String),
        TurnedAway tools encode truncated second plan output again newId left ↔ made = true := by
  have start : OutputAbsent output (disk, false) := ⟨absent, rfl⟩
  have spec : (execute tools encode executor plan output scan executionId).run.wp
      (watched truncated output) (fun _ after => Noted output after) (fun _ _ => True)
      (disk, false) := by
    rw [execute, wp_bind]
    refine Program.wp_mono ?_ (executeRecorded_noted apart start)
    rintro (_ | _) _ -
    · trivial
    · exact Program.wp_done.mpr trivial
  have noted : Noted output (left, made) := Program.wp_reached spec start.noted reached
  exact ⟨noted, fun second again newId => (turnedAway_iff version).trans noted⟩

end

namespace Reference

lemma staysApart : StaysApart (planOf "a" []) "/o" (scanOf ["a"]) "x" where
  assets := by
    intro _ mem _
    have isName : IsName "a" := by decide
    have same : relativize "/d" (join "/d" "a") = "a" := by decide
    rw [List.mem_singleton.mp mem]
    exact same ▸ inside_of_isName isName
  splits := fun op mem => (List.not_mem_nil mem).elim
  outputAbove := by decide
  outputBelow := by decide

/-- A run of the plan up to the point at which it has made the output directory. -/
def atCreation : Program (FsRequest Storage.Reference.Payload) Answer
      (Except RepairError ExecutionReport) × Disk Storage.Reference.Payload × Bool :=
  (execute tools encodeManifest verifying (planOf "a" []) "/o" (scanOf ["a"]) "x").run.advance
    (watched tools.created "/o") 7 (diskOf [("a", "xy")], false)

theorem refused_after_creation :
    atCreation.2.1.Present "/o" ∧ TurnedAway tools encodeManifest tools.created verifying
      (planOf "a" []) "/o" (scanOf ["a"]) "y" atCreation.2.1 := by
  have made : atCreation.2.2 = true := by decide +kernel
  have absent : ¬ (diskOf [("a", "xy")]).Present "/o" := by decide
  have reached : Relation.ReflTransGen (Program.Step (watched tools.created "/o")) _ atCreation :=
    Program.reaches_advance _ 7 _ _
  generalize atCreation = point at made reached ⊢
  obtain ⟨_, _, _⟩ := point
  obtain ⟨present, refused⟩ := refused_iff_output_made rfl absent staysApart reached
  exact ⟨present.mpr made, (refused verifying (scanOf ["a"]) "y").mpr made⟩

/-- A scan engine that gives up on every directory. -/
def unscannable : Toolkit Storage.Reference.Payload Unit Char :=
  { tools with scan := fun _ _ => .error "permission denied" }

/-- The scan of the output fails after the files were copied there: the output stays, and the plan
is refused from then on. -/
theorem failed_scan_blocks_retry :
    ¬ ∀ error final, Fallible.Fails (Disk.service unscannable.created)
        (execute unscannable encodeManifest verifying (planOf "a" []) "/o" (scanOf ["a"]) "x")
        (diskOf [("a", "xy")]) error final →
      ¬ final.Present "/o" ∧ ¬ TurnedAway unscannable encodeManifest unscannable.created verifying
        (planOf "a" []) "/o" (scanOf ["a"]) "y" final := by
  intro claim
  have fails : ∃ error final, Fails (Disk.service unscannable.created)
      (execute unscannable encodeManifest verifying (planOf "a" []) "/o" (scanOf ["a"]) "x")
      (diskOf [("a", "xy")]) error final ∧ decide (final.Present "/o") = true :=
    exists_fails_of_eval (by decide +kernel)
  obtain ⟨error, final, fails, present⟩ := fails
  exact (claim error final fails).1 (of_decide_eq_true present)

end Reference

end Parqonaut.Repair
