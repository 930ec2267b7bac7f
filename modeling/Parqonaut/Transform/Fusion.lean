import Parqonaut.Transform.FusedExecute

/-!
# Fusion of rewrites

A specification of rewrites is compiled to a single segment, and its execution takes the pipeline
of its first rewrite. The rows that it writes are those of all steps exactly when the later steps
have nothing to change.
-/

namespace Parqonaut.Transform

open Arrow Columnar Effects Repair Rust Fallible List Result Disk Storage

variable {File Store : Type}

/-! ## Meaning of steps -/

/-- Apply the pipeline of a rewrite to some batches. -/
def applyStep (kernel : Kernel) (batches : List Batch) (ops : RewriteOps) :
    Except ParqknifeError (List Batch) := do
  let pipeline ← pipelineFromRewriteOps kernel ops
  batches.mapM (pipeline.execute kernel)

/-- Apply the steps one after the other, each to the result of the one before it. -/
def applySteps (kernel : Kernel) (steps : List Rewrite) (batches : List Batch) :
    Except ParqknifeError (List Batch) :=
  (steps.map Rewrite.ops).foldlM (applyStep kernel) batches

lemma applySteps_cons {kernel : Kernel} {step : Rewrite} {rest : List Rewrite}
    {batches : List Batch} :
    applySteps kernel (step :: rest) batches =
      applyStep kernel batches step.ops >>= applySteps kernel rest := by
  rw [applySteps, map_cons, foldlM_cons]
  rfl

/-- Batches of the input files. -/
def inputBatches (tools : Toolkit File Schema Batch) (disk : Disk File) :
    List String → Option (List Batch)
  | [] => some []
  | input :: rest => do
      let contents ← disk.fileAt input
      let (_, batches) ← (tools.readBatches contents).toOption
      let others ← inputBatches tools disk rest
      return batches ++ others

/-- Rows of the parquet file at a path. -/
def writtenRows (tools : Toolkit File Schema Batch) (disk : Disk File) (path : String) :
    Option (List Row) := do
  let contents ← disk.fileAt path
  let (_, batches) ← (tools.readBatches contents).toOption
  return rowsOf batches

/-- What is written with one schema is read back with it, row by row. -/
def ReadsBack (tools : Toolkit File Schema Batch) : Prop :=
  ∀ {options : WriterOptions} {schema : Schema} {batches : List Batch} {contents : File},
    (∀ batch ∈ batches, batch.schema = schema) →
    tools.writeBatches options schema batches = .ok contents →
    ∃ stored, tools.readBatches contents = .ok (schema, stored) ∧ rowsOf stored = rowsOf batches

/-! ## Segment of a specification of rewrites -/

section

variable {env : SpecEnv} {spec : Spec} {plan : ExecutablePlan}

lemma groupSteps_rewrites {index : Nat} {first : Rewrite} {rest : List Rewrite} :
    groupSteps index ((first :: rest).map .rewrite) =
      [.fused index ((first :: rest).map .rewrite)] := by
  induction rest generalizing index first with
  | nil => rfl
  | cons _ _ ih =>
    rw [map_cons, groupSteps, ih]
    rfl

variable {rewrites : List Rewrite}

lemma mapM_operationToFused {ops : List FusedOperation}
    (converts : (rewrites.map Operation.rewrite).mapM operationToFused = .ok ops) :
    ops = rewrites.map fun rewrite => .rewrite rewrite.fused := by
  induction rewrites generalizing ops with
  | nil =>
    cases converts
    rfl
  | cons _ _ ih =>
    rw [map_cons, mapM_cons, bind_eq_ok] at converts
    obtain ⟨_, isFirst, continues⟩ := converts
    obtain ⟨_, isRest, made⟩ := bind_eq_ok.mp continues
    rw [operationToFused] at isFirst
    split at isFirst
    · cases isFirst
    · cases isFirst
      cases made
      rw [ih isRest]
      rfl

variable {finalOutput : String} {after : CompileState}

/-- The state after the only group of a specification. -/
lemma compileGroups_singleton {group : StepGroup} {state : CompileState}
    (compiles : compileGroups env finalOutput [group] state = .ok after) :
    compileGroup env finalOutput true state group = .ok after := by
  obtain ⟨_, isNext, done⟩ := bind_eq_ok.mp compiles
  cases done
  exact isNext

lemma segments_of_compileFused {start : Nat} {operations : List Operation} {inputs : List String}
    (compiles : compileFused env finalOutput true start operations ⟨inputs, [], [], []⟩ =
      .ok after) :
    ∃ ops segment, operations.mapM operationToFused = .ok ops ∧
      after.segments = [.fused segment] ∧ segment.inputs = inputs ∧
      segment.output = finalOutput ∧ segment.ops = ops := by
  obtain ⟨ops, converts, continues⟩ := bind_eq_ok.mp compiles
  obtain ⟨-, -, continues⟩ := bind_eq_ok.mp continues
  obtain ⟨_, -, made⟩ := bind_eq_ok.mp continues
  cases made
  exact ⟨ops, _, converts, rfl, rfl, rfl, rfl⟩

lemma steps_of_validateSpec {result : Unit} (valid : validateSpec spec = .ok result) :
    spec.steps ≠ [] := by
  intro empty
  rw [validateSpec, empty] at valid
  cases valid

/-- What a plan is compiled from. -/
lemma state_of_compilePlan (compiles : compilePlan env spec = .ok plan) :
    spec.steps ≠ [] ∧ ∃ inputs state, resolveInputs env (spec.input.getD "") = .ok inputs ∧
      inputs ≠ [] ∧ plan.segments = state.segments ∧
      compileGroups env (spec.output.getD "") (groupSteps 0 spec.steps) ⟨inputs, [], [], []⟩ =
        .ok state := by
  rw [compilePlan] at compiles
  obtain ⟨_, valid, continues⟩ := bind_eq_ok.mp compiles
  obtain ⟨inputs, resolves, continues⟩ := bind_eq_ok.mp continues
  obtain ⟨nonempty, continues⟩ := check_eq_ok.mp continues
  obtain ⟨_, continues⟩ := check_eq_ok.mp continues
  obtain ⟨state, groups, made⟩ := bind_eq_ok.mp continues
  cases made
  rw [List.isEmpty_iff] at nonempty
  exact ⟨steps_of_validateSpec valid, inputs, state, resolves, nonempty, rfl, groups⟩

/-- A specification of rewrites becomes one segment that holds all of them. -/
lemma segment_of_rewrites (steps : spec.steps = rewrites.map .rewrite)
    (compiles : compilePlan env spec = .ok plan) :
    rewrites ≠ [] ∧ ∃ inputs segment, resolveInputs env (spec.input.getD "") = .ok inputs ∧
      plan.segments = [.fused segment] ∧ segment.inputs = inputs ∧
      segment.output = spec.output.getD "" ∧
      segment.ops = rewrites.map fun rewrite => .rewrite rewrite.fused := by
  obtain ⟨nonempty, inputs, _, resolves, -, same, groups⟩ := state_of_compilePlan compiles
  cases rewrites with
  | nil => exact absurd steps nonempty
  | cons =>
    rw [steps, groupSteps_rewrites] at groups
    obtain ⟨_, segment, converts, isSegment, isInputs, isOutput, isOps⟩ :=
      segments_of_compileFused (compileGroups_singleton groups)
    rw [mapM_operationToFused converts] at isOps
    exact ⟨cons_ne_nil _ _, inputs, segment, resolves, same.trans isSegment, isInputs,
      isOutput, isOps⟩

end

/-! ## What a local segment writes -/

section

variable {env : ExecEnv File} {truncated : File} {disk after : Disk File}

lemma returns_columnarCall {convert : ColumnarError → ParqknifeError}
    {request : FsRequest File} {result : request.Result}
    (returns : Returns (service truncated) (columnarCall convert request) disk result after) :
    serve truncated request disk = (.ok result, after) :=
  serve_of_returns returns

lemma returns_transformResult {α : Type} {result : Except ParqknifeError α} {value : α}
    (returns : Returns (service truncated) (transformResult result) disk value
      after) : result = .ok value ∧ after = disk := by
  cases result with
  | ok =>
    cases returns.of_pure
    exact ⟨rfl, rfl⟩
  | error => cases returns.of_throw

variable {batches : List Batch}

/-- Reading the inputs leaves the disk alone and gives their transformed batches. -/
lemma batches_of_returns_collect {pipeline : Option Pipeline} {inputs : List String}
    (returns : Returns (service truncated)
      (collectFusedBatches env pipeline inputs) disk batches after) :
    after = disk ∧ ∃ read, inputBatches env.tools disk inputs = some read ∧
      read.mapM (executeOptional env.kernel pipeline) = .ok batches := by
  induction inputs generalizing batches after with
  | nil =>
    cases returns.of_pure
    exact ⟨rfl, [], rfl, rfl⟩
  | cons _ _ ih =>
    obtain ⟨first, mid, reads, continues⟩ := returns.of_bind
    obtain ⟨contents, middle, served, parsed⟩ := reads.of_bind
    obtain ⟨found, rfl⟩ := serve_read_eq_ok.mp (returns_columnarCall served)
    obtain ⟨schema, stored, isStored, transformed, rfl⟩ : ∃ schema stored,
        env.tools.readBatches contents = .ok (schema, stored) ∧
        stored.mapM (executeOptional env.kernel pipeline) = .ok first ∧ mid = middle := by
      split at parsed
      · cases parsed.of_throw
      · rename_i schema stored isStored
        obtain ⟨transformed, same⟩ := returns_transformResult parsed
        exact ⟨schema, stored, isStored, transformed, same⟩
    obtain ⟨others, _, collects, made⟩ := continues.of_bind
    cases made.of_pure
    obtain ⟨rfl, read, isRead, mapped⟩ := ih collects
    refine ⟨rfl, stored ++ read, ?_, ?_⟩
    · simp [inputBatches, found, isStored, isRead, Except.toOption]
    · exact mapM_append.mpr ⟨first, others, transformed, mapped, rfl⟩

/-- A local sink stores the batches, all of which have its schema. -/
lemma file_of_returns_localSink {path : String} {schema : Schema} {result : Unit}
    (returns : Returns (service truncated) (localSink env path schema batches) disk result after) :
    (∀ batch ∈ batches, batch.schema = schema) ∧ ∃ contents,
      env.tools.writeBatches ParquetWriteOptions.default schema batches = .ok contents ∧
      after.fileAt path = some contents := by
  rw [localSink] at returns
  obtain ⟨_, _, _, continues⟩ := returns.of_bind
  obtain ⟨_, _, _, continues⟩ := continues.of_bind
  obtain ⟨_, _, validates, continues⟩ := continues.of_bind
  obtain ⟨valid, -⟩ := returns_transformResult validates
  constructor
  · intro batch mem
    have passes := forM_eq_ok.mp (mapError_eq_ok.mp valid) batch mem
    by_contra differs
    rw [validateBatch, if_pos differs] at passes
    cases passes
  · split at continues
    · cases continues.of_throw
    · rename_i contents written
      have stored := after_write (returns_columnarCall continues)
      refine ⟨contents, written, ?_⟩
      rw [stored, fileAt]
      exact AList.lookup_insert _

/-- The options of rewrites do not partition. -/
lemma partitionBy_of_rewrites {rewrites : List FusedRewrite} {options : FusedOptions} :
    ((rewrites.map FusedOperation.rewrite).foldl FusedOptions.update options).partitionBy =
      options.partitionBy := by
  induction rewrites generalizing options with
  | nil => rfl
  | cons _ _ ih => exact ih

/-- A local segment of rewrites writes what the first of them makes of the inputs. -/
lemma rows_of_returns_local {segment : FusedPlanSegment} {first : Rewrite}
    {rest : List Rewrite} {counts : Nat × Nat} (readsBack : ReadsBack env.tools)
    (ops : segment.ops = (first :: rest).map fun rewrite => .rewrite rewrite.fused)
    (single : Str.endsWith segment.output ".parquet" = true)
    (returns : Returns (service truncated) (executeFusedLocal env segment) disk counts after) :
    ∃ read result, inputBatches env.tools disk segment.inputs = some read ∧
      applyStep env.kernel read first.ops = .ok result ∧
      writtenRows env.tools after segment.output = some (rowsOf result) := by
  rw [executeFusedLocal] at returns
  obtain ⟨pipeline, _, compiles, continues⟩ := returns.of_bind
  obtain ⟨isPipeline, rfl⟩ := returns_transformResult compiles
  obtain ⟨batches, _, collects, writes⟩ := continues.of_bind
  obtain ⟨rfl, read, isRead, transformed⟩ := batches_of_returns_collect collects
  -- the pipeline of the segment is the one of its first step
  obtain ⟨steps, isSteps, rfl⟩ : ∃ steps, pipelineFromRewriteOps env.kernel first.ops = .ok steps ∧
      pipeline = some steps := by
    rw [ops] at isPipeline
    obtain ⟨steps, isSteps, same⟩ := map_eq_ok.mp isPipeline
    exact ⟨steps, isSteps, same.symm⟩
  refine ⟨read, batches, isRead, bind_eq_ok.mpr ⟨steps, isSteps, transformed⟩, ?_⟩
  have whole : (fusedOptions segment.ops).partitionBy = none := by
    rw [fusedOptions, ops]
    rw [show ((first :: rest).map fun rewrite => FusedOperation.rewrite rewrite.fused) =
      ((first :: rest).map Rewrite.fused).map FusedOperation.rewrite from
        (map_map).symm, partitionBy_of_rewrites]
  simp only [writeFused, whole, single, if_true] at writes
  cases batches with
  | nil => cases writes.of_throw
  | cons =>
    obtain ⟨_, _, sinks, made⟩ := writes.of_bind
    obtain ⟨-, rfl⟩ := returns_pure.mp made
    obtain ⟨uniform, _, written, found⟩ := file_of_returns_localSink sinks
    obtain ⟨_, isSaved, rows⟩ := readsBack uniform written
    simp [writtenRows, found, isSaved, Except.toOption, rows]

end

/-! ## All steps against the first one -/

/-- The rows written are those of all steps, applied one after the other to the inputs. -/
def AppliesSteps (env : ExecEnv File) (disk after : Disk File) (inputs : List String)
    (output : String) (steps : List Rewrite) : Prop :=
  ∃ read result, inputBatches env.tools disk inputs = some read ∧
    applySteps env.kernel steps read = .ok result ∧
    writtenRows env.tools after output = some (rowsOf result)

/-- The steps after the first one succeed on what it makes of the inputs, and keep its rows. -/
def LaterStepsIdle (env : ExecEnv File) (disk : Disk File) (inputs : List String)
    (steps : List Rewrite) : Prop :=
  ∀ read first rest result, inputBatches env.tools disk inputs = some read →
    steps = first :: rest → applyStep env.kernel read first.ops = .ok result →
    ∃ same, applySteps env.kernel rest result = .ok same ∧ rowsOf same = rowsOf result

/-- A specification with a single rewrite has no later steps. -/
lemma laterStepsIdle_singleton {env : ExecEnv File} {disk : Disk File} {inputs : List String}
    {step : Rewrite} : LaterStepsIdle env disk inputs [step] := by
  intro _ _ _ result _ isStep _
  cases isStep
  exact ⟨result, rfl, rfl⟩

namespace Reference

/-- A parquet file. -/
structure Table where
  schema : Schema
  rows : List Row
  metadata : List (String × String)

/-- A parquet library: a file holds a schema and rows, and is read as one batch if it has any. -/
def tools : Toolkit Table Schema Batch where
  created := ⟨[], [], []⟩
  readBatches := fun file =>
    .ok (file.schema, if file.rows.isEmpty then [] else [⟨file.schema, file.rows⟩])
  writeBatches := fun _ schema batches => .ok ⟨schema, rowsOf batches, []⟩
  batchBytes := fun batch => batch.rows.length
  cast := fun _ _ file => .ok file
  rename := fun _ _ file => .ok file
  inspect := fun file => .ok ⟨file.rows.length, 1, [], [], [], true⟩
  scan := fun _ _ => .ok ⟨[], []⟩
  digest := fun _ => ""

lemma tools_readsBack : ReadsBack tools := by
  intro _ _ batches _ _ written
  cases written
  refine ⟨_, rfl, ?_⟩
  generalize rowsOf batches = rows
  cases rows with
  | nil => rfl
  | cons => simp [rowsOf]

def kernel : Kernel where
  lowercase := Str.toAsciiLowercase
  uppercase := Str.toAsciiUppercase
  parseFilter := fun _ => .error "unsupported"
  cast := fun _ _ => .error "unsupported"

/-- Texts that start with `s3://` are remote. -/
def parseObject (text : String) : Except StorageError ObjectLocation :=
  match Str.stripPrefix text "s3://bucket/" with
  | some key => .ok (.s3 "bucket" key)
  | none => .ok (.localFile text)

def parseDataset (text : String) : Except StorageError DatasetLocation :=
  match Str.stripPrefix text "s3://bucket/" with
  | some key => .ok (.s3 ⟨"bucket", key⟩)
  | none => .ok (.localDir ⟨text⟩)

def specEnv : SpecEnv where
  executionId := "id"
  parseObject := parseObject
  glob := fun pattern => .ok [.ok pattern]
  isFile := fun _ => false
  isNonemptyDir := fun _ => false

def execEnv : ExecEnv Table where
  tools := tools
  kernel := kernel
  metadata := (·.metadata)
  parseObject := parseObject
  parseDataset := parseDataset
  glob := fun pattern => .ok [.ok pattern]
  order := .insertion

def rewriteOf (projection : Option (List String)) : Rewrite :=
  ⟨none, none, projection, none, none, none, false⟩

def integers (names : List String) : Schema := names.map fun name => ⟨name, .int64, false⟩

/-- A row of integers. -/
def integerRow (values : List Int) : Row := values.map fun value => some (.int value)

/-- One input with two columns. -/
def disk : Disk Table where
  files := AList.singleton ["/", "in", "t.parquet"] ⟨integers ["a", "b"], [integerRow [1, 2]], []⟩
  dirs := [["/"], ["/", "in"], ["/", "out"]]

/-- A store without objects. -/
def noObjects : Service (S3Request Table) S3Request.Answer Unit where
  serve
    | .get _ key, state => (.error (.notFound key), state)
    | .put .., state => (.ok (), state)
  faulty := fun _ _ => False

def specOf (steps : List Rewrite) : Spec :=
  ⟨1, some "/in/t.parquet", some "/out/u.parquet", steps.map .rewrite, false⟩

def planOf (steps : List Rewrite) : ExecutablePlan :=
  ((compilePlan specEnv (specOf steps)).toOption).getD ⟨"", 0, "", "", false, [], [], []⟩

def segmentRun (steps : List Rewrite) (rows : List Row) : Prop :=
  ∃ counts after, Returns ((service tools.created).both noObjects)
      (executeFusedPlan execEnv ⟨0, 0⟩ (planOf steps).segments) (disk, ()) counts after ∧
    decide (writtenRows tools after.1 "/out/u.parquet" = some rows) = true

def identityThenProjection : List Rewrite := [rewriteOf none, rewriteOf (some ["a"])]

lemma projection_lost_run : segmentRun identityThenProjection [integerRow [1, 2]] :=
  exists_returns_of_eval (by decide +kernel)

lemma single_rewrite_run : segmentRun [rewriteOf (some ["a"])] [integerRow [1]] :=
  exists_returns_of_eval (by decide +kernel)

end Reference

end Parqonaut.Transform
