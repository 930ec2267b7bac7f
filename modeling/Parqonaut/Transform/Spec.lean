import Parqonaut.Transform.Pipeline

/-!
# Transform specifications

`types.rs` and `plan.rs` of the transform engine: `compile_plan` resolves a list of steps to
segments. A split is a barrier of its own; the steps between two barriers are fused. The inputs
of a segment are predicted before anything is executed. A hash map is the list of its entries as
it is iterated.
-/

namespace Parqonaut.Transform

open Repair Rust Storage

/-! ## Specifications -/

inductive Compression where
  | uncompressed
  | snappy
  | gzip
  | lzo
  | brotli
  | lz4
  | zstd
  | lz4Raw
  deriving DecidableEq

def compressionLabel : Compression → String
  | .uncompressed => "uncompressed"
  | .snappy => "snappy"
  | .gzip => "gzip"
  | .lzo => "lzo"
  | .brotli => "brotli"
  | .lz4 => "lz4"
  | .zstd => "zstd"
  | .lz4Raw => "lz4_raw"

structure SchemaOps where
  rename : Option (List (String × String))
  cast : Option (List (String × String))
  deriving DecidableEq

structure Rewrite where
  compression : Option Compression
  rowGroupSizeMb : Option Nat
  projection : Option (List String)
  filter : Option String
  schema : Option SchemaOps
  metadata : Option (List (String × String))
  rebuildStats : Bool
  deriving DecidableEq

inductive Operation where
  | rewrite (rewrite : Rewrite)
  | partition (partitionBy : List String)
  | merge (rowGroupSizeMb : Option Nat)
  | split (targetSizeMb targetRowGroups : Option Nat)
  deriving DecidableEq

/-- A specification, with the operations of its steps. Of the options only `overwrite` is
read. -/
structure Spec where
  schemaVersion : Nat
  input : Option String
  output : Option String
  steps : List Operation
  overwrite : Bool

/-! ## Plans -/

inductive StorageKind where
  | localDisk
  | s3
  deriving DecidableEq

structure FusedRewrite where
  compression : Option Compression
  rowGroupSizeMb : Option Nat
  ops : RewriteOps
  rebuildStats : Bool
  deriving DecidableEq

inductive FusedOperation where
  | rewrite (rewrite : FusedRewrite)
  | partition (partitionBy : List String)
  | merge (rowGroupSizeMb : Option Nat)
  deriving DecidableEq

structure ResolvedStep where
  index : Nat
  operation : Operation
  inputs : List String
  output : String
  isIntermediate : Bool
  storage : StorageKind
  deriving DecidableEq

structure FusedPlanSegment where
  stepIndices : List Nat
  inputs : List String
  output : String
  ops : List FusedOperation
  isIntermediate : Bool
  storage : StorageKind
  deriving DecidableEq

structure BarrierPlanSegment where
  reason : String
  step : ResolvedStep
  deriving DecidableEq

inductive CompiledSegment where
  | fused (segment : FusedPlanSegment)
  | barrier (segment : BarrierPlanSegment)
  deriving DecidableEq

structure ExecutablePlan where
  executionId : String
  schemaVersion : Nat
  originalInput : String
  finalOutput : String
  overwrite : Bool
  steps : List ResolvedStep
  intermediateRoots : List String
  segments : List CompiledSegment
  deriving DecidableEq

/-! ## Compilation -/

/-- What compilation sees of the file system and of other libraries. -/
structure SpecEnv where
  executionId : String
  parseObject : String → Except StorageError ObjectLocation
  glob : String → Except String (List (Except String String))
  isFile : String → Bool
  isNonemptyDir : String → Bool

/-- `resolve_inputs`, with the matches that a glob pattern has. -/
def resolveInputsWith (parseObject : String → Except StorageError ObjectLocation)
    (glob : String → Except String (List (Except String String))) (pattern : String) :
    Except ParqknifeError (List String) :=
  if Str.startsWith pattern "s3://" then
    match parseObject pattern with
    | .ok _ => .ok [pattern]
    | .error error => .error (.invalidInput error.display)
  else
    match glob pattern with
    | .error error => .error (.invalidInput ("Invalid glob pattern: " ++ error))
    | .ok entries => do
        let paths ← entries.mapM fun entry => entry.mapError ParqknifeError.invalidInput
        return paths.insertionSort (· ≤ ·)

def storageKind (path : String) : StorageKind :=
  if Str.startsWith path "s3://" then .s3 else .localDisk

def isBarrierOperation : Operation → Bool
  | .split .. => true
  | .rewrite _ | .partition _ | .merge _ => false

def SPLIT_REASON : String :=
  "split requires row-group size accounting and multi-file emission; not stream-fusible in v0.9"

def barrierReason : Operation → Option String
  | .split .. => some SPLIT_REASON
  | .rewrite _ | .partition _ | .merge _ => none

/-- Data operations of a rewrite. -/
def Rewrite.ops (rewrite : Rewrite) : RewriteOps where
  projection := rewrite.projection
  filter := rewrite.filter
  rename := rewrite.schema.bind (·.rename)
  cast := rewrite.schema.bind (·.cast)

def Rewrite.fused (rewrite : Rewrite) : FusedRewrite :=
  ⟨rewrite.compression, rewrite.rowGroupSizeMb, rewrite.ops, rewrite.rebuildStats⟩

def operationToFused : Operation → Except ParqknifeError FusedOperation
  | .rewrite rewrite =>
    if rewrite.metadata.isSome then
      .error (.specError "rewrite metadata updates require a materialized barrier step")
    else .ok (.rewrite rewrite.fused)
  | .partition partitionBy => .ok (.partition partitionBy)
  | .merge rowGroupSizeMb => .ok (.merge rowGroupSizeMb)
  | .split .. => .error (.specError "split is not fusible")

/-- Last name of a path, unless it ends with the root or `..`. -/
def fileName (path : String) : Option String :=
  (Path.components path).getLast?.filter fun piece => piece ≠ "/" && piece ≠ "." && piece ≠ ".."

/-- Files that a rewrite is expected to write. -/
def predictRewrite (output : String) (inputs : List String) : List String :=
  if inputs.length = 1 && Str.endsWith output ".parquet" then [output]
  else inputs.map fun input => Path.join output ((fileName input).getD "out.parquet")

/-- File that a merge is expected to write. -/
def predictMerge (output : String) : List String :=
  if (Path.extension output).isSome then [output] else [Path.join output "merged.parquet"]

variable (env : SpecEnv)

def resolveInputs (pattern : String) : Except ParqknifeError (List String) :=
  resolveInputsWith env.parseObject env.glob pattern

def pathExistsNonempty (path : String) : Bool :=
  env.isFile path || env.isNonemptyDir path

def predictOutputs (operation : Operation) (output : String) (inputs : List String) :
    Except ParqknifeError (List String) :=
  match operation with
  | .rewrite _ => .ok (predictRewrite output inputs)
  | .partition _ => resolveInputs env output
  | .merge _ => .ok (predictMerge output)
  | .split .. => resolveInputs env output

/-- The outputs of a fused segment are predicted from its last operation. -/
def predictOutputsFromFused (ops : List FusedOperation) (output : String)
    (inputs : List String) : Except ParqknifeError (List String) :=
  match ops.getLast? with
  | none => .ok inputs
  | some (.rewrite _) => .ok (predictRewrite output inputs)
  | some (.partition _) => resolveInputs env output
  | some (.merge _) => .ok (predictMerge output)

def validateStep (operation : Operation) (inputs : List String) (output : String) :
    Except ParqknifeError Unit := do
  match operation with
  | .rewrite _ =>
    if inputs.isEmpty then throw (.specError "rewrite requires inputs")
  | .partition partitionBy =>
    if partitionBy.isEmpty then throw (.specError "partition-by required")
    if inputs.length ≠ 1 then
      throw (.specError "partition requires exactly one Parquet input")
  | .merge _ =>
    if inputs.isEmpty then throw (.specError "merge requires inputs")
  | .split .. =>
    if inputs.length ≠ 1 then throw (.specError "split requires exactly one Parquet input")
  if Str.trim output = "" then throw (.specError "step output path required")

def emptyPartition : Operation → Bool
  | .partition partitionBy => partitionBy.isEmpty
  | .rewrite _ | .merge _ | .split .. => false

def validateSpec (spec : Spec) : Except ParqknifeError Unit := do
  if spec.steps.isEmpty then throw (.specError "spec must contain at least one step")
  if spec.input.isNone then throw (.specError "input is required")
  if spec.output.isNone then throw (.specError "output is required")
  if spec.steps.any emptyPartition then throw (.specError "partition-by required")

/-- A barrier, or the steps up to the next one. The number is the index of the first step. -/
inductive StepGroup where
  | barrier (index : Nat) (operation : Operation)
  | fused (start : Nat) (operations : List Operation)

/-- Steps from the one at `index` on. -/
def groupSteps (index : Nat) : List Operation → List StepGroup
  | [] => []
  | operation :: rest =>
    if isBarrierOperation operation then
      .barrier index operation :: groupSteps (index + 1) rest
    else
      match groupSteps (index + 1) rest with
      | .fused _ operations :: groups => .fused index (operation :: operations) :: groups
      | groups => .fused index [operation] :: groups

structure CompileState where
  currentInputs : List String
  segments : List CompiledSegment
  steps : List ResolvedStep
  intermediateRoots : List String

variable (finalOutput : String) (isLast : Bool) (output : String) (index : Nat) (inputs : List
  String)

def stagingBase : String :=
  Path.join ((Path.parent finalOutput).getD ".") (".parqonaut-spec-" ++ env.executionId)

/-- Where the segment that starts at a step writes. -/
def segmentOutput : String :=
  if isLast then finalOutput
  else Path.join (stagingBase env finalOutput) ("step-" ++ Str.zeroPadded 3 index)

def intermediateRoot : List String :=
  if isLast then [] else [output]

def compileBarrier (operation : Operation) (state : CompileState) :
    Except ParqknifeError CompileState := do
  let output := segmentOutput env finalOutput isLast index
  validateStep operation state.currentInputs output
  let step : ResolvedStep :=
    ⟨index, operation, state.currentInputs, output, !isLast, storageKind output⟩
  let predicted ← predictOutputs env operation output state.currentInputs
  return {
    currentInputs := predicted
    segments := state.segments ++ [.barrier ⟨(barrierReason operation).getD "barrier", step⟩]
    steps := state.steps ++ [step]
    intermediateRoots := state.intermediateRoots ++ intermediateRoot isLast output }

/-- Steps of a fused segment; all of them but the first read its output. -/
def fusedSteps (output : String) (start : Nat) (operations : List Operation) : List ResolvedStep :=
  operations.mapIdx fun offset operation =>
    ⟨start + offset, operation, if offset = 0 then inputs else [output], output, !isLast,
      storageKind output⟩

def compileFused (start : Nat) (operations : List Operation) (state : CompileState) :
    Except ParqknifeError CompileState := do
  let ops ← operations.mapM operationToFused
  let output := segmentOutput env finalOutput isLast start
  operations.forM fun operation => validateStep operation state.currentInputs output
  let segment : FusedPlanSegment :=
    ⟨(List.range operations.length).map (start + ·), state.currentInputs, output, ops, !isLast,
      storageKind output⟩
  let predicted ← predictOutputsFromFused env ops output state.currentInputs
  return {
    currentInputs := predicted
    segments := state.segments ++ [.fused segment]
    steps := state.steps ++ fusedSteps isLast state.currentInputs output start operations
    intermediateRoots := state.intermediateRoots ++ intermediateRoot isLast output }

def compileGroup (state : CompileState) : StepGroup → Except ParqknifeError CompileState
  | .barrier index operation => compileBarrier env finalOutput isLast index operation state
  | .fused start operations => compileFused env finalOutput isLast start operations state

def compileGroups : List StepGroup → CompileState → Except ParqknifeError CompileState
  | [], state => .ok state
  | group :: rest, state => do
      let next ← compileGroup env finalOutput rest.isEmpty state group
      compileGroups rest next

def compilePlan (spec : Spec) : Except ParqknifeError ExecutablePlan := do
  validateSpec spec
  let input := spec.input.getD ""
  let finalOutput := spec.output.getD ""
  let initialInputs ← resolveInputs env input
  if initialInputs.isEmpty then throw (.specError "no input files resolved")
  if !spec.overwrite && !Str.startsWith finalOutput "s3://" &&
      pathExistsNonempty env finalOutput then
    throw (.specError ("output already exists and overwrite is false: " ++ finalOutput))
  let state ← compileGroups env finalOutput (groupSteps 0 spec.steps) ⟨initialInputs, [], [], []⟩
  return {
    executionId := env.executionId
    schemaVersion := spec.schemaVersion
    originalInput := input
    finalOutput := finalOutput
    overwrite := spec.overwrite
    steps := state.steps
    intermediateRoots := state.intermediateRoots
    segments := state.segments }

end Parqonaut.Transform
