import Mathlib.Data.List.ReduceOption
import Parqonaut.Transform.Spec

/-!
# Execution of plans

`fused_execute.rs`, the fused part of `storage_routing.rs`, and `execute_plan` of `execute.rs`. A
fused segment reads its inputs batch by batch and writes one parquet file or a partition tree; with
a remote input or output it is routed through the storage backends, by code of its own.

A routed program reads and writes whole objects. The counters of intermediate files, and the steps
that are never compiled to a barrier, are left out.
-/

namespace Parqonaut.Transform

open Arrow Columnar Effects Repair Rust Storage

variable {File : Type}

/-- What the execution takes from other libraries. `metadata` are the key-value pairs of a footer,
part of the schema of a file but not of its batches. -/
structure ExecEnv (File : Type) where
  tools : Toolkit File Schema Batch
  kernel : Kernel
  metadata : File → List (String × String)
  parseObject : String → Except StorageError ObjectLocation
  parseDataset : String → Except StorageError DatasetLocation
  glob : String → Except String (List (Except String String))
  order : HashOrder

/-! ## Local segments -/

/-- Pipeline of the first rewrite. -/
def fusedPipeline (kernel : Kernel) (ops : List FusedOperation) :
    Except ParqknifeError (Option Pipeline) :=
  match ops.findSome? fun
      | .rewrite rewrite => some (pipelineFromRewriteOps kernel rewrite.ops)
      | .partition _ | .merge _ => none with
  | none => .ok none
  | some pipeline => pipeline.map some

def executeOptional (kernel : Kernel) (pipeline : Option Pipeline) (batch : Batch) :
    Except ParqknifeError Batch :=
  match pipeline with
  | some pipeline => pipeline.execute kernel batch
  | none => .ok batch

/-- The columnar library reports a failed call. -/
def columnarCall (convert : ColumnarError → ParqknifeError) (request : FsRequest File) :
    TransformM File request.Result := do
  match ← Fallible.request request with
  | .ok result => return result
  | .error error => throw (convert (.io error.display))

/-- Create the directory that is to hold a file. -/
def columnarParent (convert : ColumnarError → ParqknifeError) (path : String) :
    TransformM File Unit :=
  match Path.parent path with
  | some parent => columnarCall convert (.createDirAll parent)
  | none => return ()

def columnarFailure (error : ColumnarError) : ParqknifeError := .columnar error.display

/-- `map_columnar`. -/
def mapColumnar (error : ColumnarError) : ParqknifeError := .invalidInput error.display

/-- Options that the operations of a segment set, the later ones last. -/
structure FusedOptions where
  compression : Option String
  rowGroupSizeMb : Option Nat
  partitionBy : Option (List String)

def FusedOptions.update (options : FusedOptions) : FusedOperation → FusedOptions
  | .rewrite rewrite => { options with
      compression := rewrite.compression.map compressionLabel
      rowGroupSizeMb := rewrite.rowGroupSizeMb }
  | .partition partitionBy => { options with partitionBy := some partitionBy }
  | .merge rowGroupSizeMb => { options with rowGroupSizeMb := rowGroupSizeMb }

def fusedOptions (ops : List FusedOperation) : FusedOptions :=
  ops.foldl FusedOptions.update ⟨none, none, none⟩

def MAX_OPEN_PARTITIONS : Nat := 64

/-- Options of the columnar sinks. -/
def ParquetWriteOptions.default : WriterOptions := ⟨some "snappy", some 128, false⟩

section

variable (env : ExecEnv File)

/-- Batches of one input. -/
def collectInput (pipeline : Option Pipeline) (input : String) : TransformM File (List Batch) := do
  let contents ← columnarCall columnarFailure (.read input)
  match env.tools.readBatches contents with
  | .error message => throw (columnarFailure (.parquet message))
  | .ok (_, batches) => transformResult (batches.mapM (executeOptional env.kernel pipeline))

def collectFusedBatches (pipeline : Option Pipeline) : List String → TransformM File (List Batch)
  | [] => return []
  | input :: rest => do
      let batches ← collectInput env pipeline input
      let others ← collectFusedBatches pipeline rest
      return batches ++ others

/-- `LocalParquetBatchSink::write_stream`. -/
def localSink (path : String) (schema : Schema) (batches : List Batch) :
    TransformM File Unit := do
  columnarParent mapColumnar path
  columnarCall mapColumnar (.write path env.tools.created)
  transformResult ((batches.forM (validateBatch schema)).mapError mapColumnar)
  match env.tools.writeBatches ParquetWriteOptions.default schema batches with
  | .error message => throw (mapColumnar (.parquet message))
  | .ok contents => columnarCall mapColumnar (.write path contents)

def unsupportedLayout (kind output : String) : ParqknifeError :=
  .specError ("unsupported " ++ kind ++ " output layout: " ++ output)

/-- Write the batches of a segment. -/
def writeFused (segment : FusedPlanSegment) (batches : List Batch) : TransformM File (Nat × Nat) :=
  let options := fusedOptions segment.ops
  let filesRead := segment.inputs.length
  match options.partitionBy with
  | some columns => do
      let outs ← partitionRecordBatches env.tools env.kernel env.order
        ⟨segment.output, columns, MAX_OPEN_PARTITIONS, options.compression,
          options.rowGroupSizeMb⟩ batches
      return (outs.length, filesRead)
  | none =>
    if Str.endsWith segment.output ".parquet" then
      match batches with
      | [] => throw (.specError "fused rewrite produced no batches")
      | first :: _ => do
          localSink env segment.output first.schema batches
          return (1, filesRead)
    else throw (unsupportedLayout "fused" segment.output)

/-- Local branch of `execute_fused_segment`. -/
def executeFusedLocal (segment : FusedPlanSegment) : TransformM File (Nat × Nat) := do
  let pipeline ← transformResult (fusedPipeline env.kernel segment.ops)
  let batches ← collectFusedBatches env pipeline segment.inputs
  writeFused env segment batches

/-- `execute_step` for the operation that is a barrier. -/
def executeSplit (step : ResolvedStep) (targetSizeMb : Option Nat) :
    TransformM File (Nat × Nat) := do
  match step.inputs with
  | [] => throw (.unsupported "index out of bounds")
  | input :: _ =>
    let _ ← splitParquetFile env.tools
      ⟨step.output, "part", targetSizeMb.getD 512 * 1024 * 1024, ⟨none, none, false⟩⟩ input
    let outs ← transformResult (resolveInputsWith env.parseObject env.glob step.output)
    return (outs.length, step.inputs.length)

end

/-! ## Routed segments -/

/-- Calls made on the object store. -/
inductive S3Request (File : Type) where
  | get (bucket key : String)
  | put (bucket key : String) (contents : File)

@[reducible] def S3Request.Result : S3Request File → Type
  | .get .. => File
  | .put .. => Unit

@[reducible] def S3Request.Answer (request : S3Request File) : Type :=
  Except StorageError request.Result

/-- Code that works on the local disk and the object store. -/
abbrev TransferM (File : Type) : Type → Type :=
  Fallible (FsRequest File ⊕ S3Request File) (SumResp FsRequest.Answer S3Request.Answer)
    ParqknifeError

def mapStorage (error : StorageError) : ParqknifeError := .invalidInput error.display

def transferResult {α : Type} : Except ParqknifeError α → TransferM File α
  | .ok value => return value
  | .error error => throw error

/-- A call on the object store. -/
def storeCall (request : S3Request File) :
    Fallible (S3Request File) S3Request.Answer ParqknifeError request.Result := do
  match ← Fallible.request request with
  | .ok result => return result
  | .error error => throw (mapColumnar (.other error.display))

/-- The local backend stores an object, with the directories that lead to it. -/
def writeLocal (path : String) (contents : File) : TransformM File Unit := do
  columnarParent mapColumnar path
  columnarCall mapColumnar (.write path contents)

/-- Read an object from the backend of its location. -/
def readObject : ObjectLocation → TransferM File File
  | .localFile path => Fallible.inl (columnarCall mapColumnar (.read path))
  | .s3 bucket key => Fallible.inr (storeCall (.get bucket key))

/-- Write an object to the backend of its location. -/
def writeObject (contents : File) : ObjectLocation → TransferM File Unit
  | .localFile path => Fallible.inl (writeLocal path contents)
  | .s3 bucket key => Fallible.inr (storeCall (.put bucket key contents))

/-- Schema of a file. -/
structure FileSchema where
  fields : Schema
  metadata : List (String × String)
  deriving DecidableEq

/-- `validate_batch` against the schema of a file. Batches carry no metadata. -/
def validateAgainst (schema : FileSchema) (batch : Batch) : Except ColumnarError Unit :=
  validateBatch schema ⟨⟨batch.schema, []⟩, batch.rows⟩

section

variable (env : ExecEnv File) (output : String) (partitionBy : List String) (maxOpen : Nat)
  (schema : FileSchema)

/-- Contents of a parquet object. -/
def readParquet (uri : String) : TransferM File (FileSchema × List Batch) := do
  let location ← transferResult ((env.parseObject uri).mapError mapStorage)
  let contents ← readObject location
  match env.tools.readBatches contents with
  | .error message => throw (mapColumnar (.parquet message))
  | .ok (fields, batches) => return (⟨fields, env.metadata contents⟩, batches)

def schemaFromInputs (inputs : List String) : TransferM File FileSchema :=
  match inputs with
  | [] => throw (.specError "fused segment has no inputs")
  | first :: _ => do
      let (schema, _) ← readParquet env first
      return schema

/-- What a fused input stream yields. -/
def fusedInputStream (pipeline : Option Pipeline) : List String → TransferM File (List Batch)
  | [] => return []
  | input :: rest => do
      let (_, batches) ← readParquet env input
      let transformed ← transferResult
        ((batches.mapM (executeOptional env.kernel pipeline)).mapError fun error =>
          mapColumnar (.other error.display))
      let others ← fusedInputStream pipeline rest
      return transformed ++ others

/-- `StorageParquetBatchSink::write_stream`. -/
def storageSink (location : ObjectLocation) (schema : FileSchema) (batches : List Batch) :
    TransferM File Unit := do
  transferResult ((batches.forM (validateAgainst schema)).mapError mapColumnar)
  match env.tools.writeBatches ParquetWriteOptions.default schema.fields batches with
  | .error message => throw (mapColumnar (.parquet message))
  | .ok contents => writeObject contents location

def fusedRewriteToStorage (inputs : List String) (output : String)
    (pipeline : Option Pipeline) : TransferM File Unit := do
  let location ← transferResult ((env.parseObject output).mapError mapStorage)
  let schema ← schemaFromInputs env inputs
  let batches ← fusedInputStream env pipeline inputs
  storageSink env location schema batches

def hiveRelativePath (columns : List String) (key : String) (partIndex : Nat) : String :=
  String.intercalate "/" ((columns.zip (Str.split key KEY_SEPARATOR)).map
    (fun entry => entry.1 ++ "=" ++ entry.2) ++ [partName partIndex])

/-- Follow the pieces of a relative path. -/
def pushPieces : List String → String → Except ParqknifeError String
  | [], path => .ok path
  | piece :: rest, path =>
    if piece = "" || piece = "." then pushPieces rest path
    else if piece = ".." then
      .error (.invalidInput "partition path must not contain '..'")
    else pushPieces rest (Path.join path piece)

def objectUnderPrefix (relative : String) : Except ParqknifeError ObjectLocation :=
  match env.parseDataset output with
  | .error error => .error (mapStorage error)
  | .ok (.localDir location) => do
      let path ← pushPieces (Str.split relative '/') location.path
      return .localFile path
  | .ok (.s3 location) => do
      let key ← (location.objectKey relative).mapError mapStorage
      return .s3 location.bucket key

/-- Buffers of a routed partitioning. -/
structure BufferState where
  buffers : AList fun _ : String => List Batch
  partCounters : String → Nat
  lru : List String
  outputs : List String

def BufferState.start : BufferState := ⟨∅, fun _ => 0, [], []⟩

/-- Write a part of a partition. -/
def flushPart (key : String) (partIndex : Nat) (batches : List Batch) : TransferM File String := do
  let location ← transferResult
    (objectUnderPrefix env output (hiveRelativePath partitionBy key partIndex))
  storageSink env location schema batches
  return location.displayUri

/-- Write out the buffer that was not used for the longest time. -/
def evictBuffer (state : BufferState) : TransferM File BufferState :=
  match state.lru with
  | [] => return state
  | oldest :: lru =>
    match state.buffers.lookup oldest with
    | none => return { state with lru := lru }
    | some batches => do
        let idx := state.partCounters oldest
        let uri ← flushPart env output partitionBy schema oldest idx batches
        return {
          buffers := state.buffers.erase oldest
          partCounters := Function.update state.partCounters oldest (idx + 1)
          lru := lru
          outputs := state.outputs ++ [uri] }

/-- Write out a buffer when there are too many of them. -/
def makeBufferRoom (state : BufferState) : TransferM File BufferState :=
  if maxOpen ≤ state.buffers.entries.length then evictBuffer env output partitionBy schema state
  else return state

/-- Buffer for a key, which is created when there is none. -/
def openBuffer (key : String) (state : BufferState) : TransferM File (List Batch × BufferState) :=
  match state.buffers.lookup key with
  | some batches => return (batches, { state with lru := touch key state.lru })
  | none => do
      let state ← makeBufferRoom env output partitionBy maxOpen schema state
      return ([], { state with lru := state.lru ++ [key] })

def bufferGroups : List (String × Batch) → BufferState → TransferM File BufferState
  | [], state => return state
  | (key, batch) :: rest, state => do
      let (batches, state) ← openBuffer env output partitionBy maxOpen schema key state
      bufferGroups rest { state with buffers := state.buffers.insert key (batches ++ [batch]) }

def bufferBatches : Nat → List Batch → BufferState → TransferM File BufferState
  | _, [], state => return state
  | index, batch :: rest, state => do
      let groups ← transferResult (partitionKeys batch partitionBy)
      let state ← bufferGroups env output partitionBy maxOpen schema
        (env.order.groups index groups) state
      bufferBatches (index + 1) rest state

def flushAll (partCounters : String → Nat) :
    List (Sigma fun _ : String => List Batch) → TransferM File (List String)
  | [] => return []
  | ⟨key, batches⟩ :: rest => do
      let uri ← flushPart env output partitionBy schema key (partCounters key) batches
      let others ← flushAll partCounters rest
      return uri :: others

/-- Buffers in the order in which the hash map is iterated. -/
def drainOrder (order : HashOrder) (entries : List (Sigma fun _ : String => List Batch)) :
    List (Sigma fun _ : String => List Batch) :=
  (order.writers (entries.map fun entry => ⟨entry.1, ⟨"", entry.2⟩⟩)).map
    fun entry => ⟨entry.1, entry.2.batches⟩

def fusedPartitionToStorage (inputs : List String) (output : String)
    (partitionBy : List String) (maxOpen : Nat) (pipeline : Option Pipeline) :
    TransferM File (List String) := do
  let schema ← schemaFromInputs env inputs
  let batches ← fusedInputStream env pipeline inputs
  let state ← bufferBatches env output partitionBy maxOpen schema 0 batches .start
  let rest ← flushAll env output partitionBy schema state.partCounters
    (drainOrder env.order state.buffers.entries)
  return state.outputs ++ rest

/-- `execute_fused_segment_routed_async`. -/
def executeFusedRouted (segment : FusedPlanSegment) : TransferM File (Nat × Nat) := do
  let pipeline ← transferResult (fusedPipeline env.kernel segment.ops)
  let filesRead := segment.inputs.length
  match (fusedOptions segment.ops).partitionBy with
  | some columns => do
      let outs ← fusedPartitionToStorage env segment.inputs segment.output columns
        MAX_OPEN_PARTITIONS pipeline
      return (outs.length, filesRead)
  | none =>
    if Str.endsWith segment.output ".parquet" then do
      fusedRewriteToStorage env segment.inputs segment.output pipeline
      return (1, filesRead)
    else throw (unsupportedLayout "fused routed" segment.output)

end

/-! ## Plans -/

variable (env : ExecEnv File)

def locationIsRemote (uri : String) : Bool :=
  match env.parseObject uri with
  | .ok (.s3 ..) => true
  | .ok (.localFile _) | .error _ => false

def FusedPlanSegment.isRouted (segment : FusedPlanSegment) : Bool :=
  segment.inputs.any (locationIsRemote env) || locationIsRemote env segment.output

def executeFusedSegment (segment : FusedPlanSegment) : TransferM File (Nat × Nat) :=
  if segment.isRouted env then executeFusedRouted env segment
  else Fallible.inl (executeFusedLocal env segment)

/-- Files read and written by the segments. -/
structure FileCounts where
  filesRead : Nat
  filesWritten : Nat

def FileCounts.add (counts : FileCounts) (written read : Nat) : FileCounts :=
  ⟨counts.filesRead + read, counts.filesWritten + written⟩

/-- `execute_fused_plan`. -/
def executeFusedPlan (counts : FileCounts) : List CompiledSegment → TransferM File FileCounts
  | [] => return counts
  | .fused segment :: rest => do
      let (written, read) ← executeFusedSegment env segment
      executeFusedPlan (counts.add written read) rest
  | .barrier segment :: _ =>
    throw (.specError ("plan is not fully streamable: barrier " ++ segment.reason))

/-- `execute_step`, for the steps that are compiled to barriers. -/
def executeStep (step : ResolvedStep) : TransferM File (Nat × Nat) :=
  match step.operation with
  | .split targetSizeMb _ => Fallible.inl (executeSplit env step targetSizeMb)
  | .rewrite _ | .partition _ | .merge _ => throw (.unsupported "not a barrier")

def executeSegment : CompiledSegment → TransferM File (Nat × Nat)
  | .fused segment => executeFusedSegment env segment
  | .barrier segment => executeStep env segment.step

def executeSegments (counts : FileCounts) : List CompiledSegment → TransferM File FileCounts
  | [] => return counts
  | segment :: rest => do
      let (written, read) ← executeSegment env segment
      executeSegments (counts.add written read) rest

/-- Remove a directory, unless there is none. -/
def removeRoot (root : String) : TransformM File Bool := do
  match ← Fallible.request (.removeDirAll root) with
  | .ok _ => return true
  | .error _ =>
    let there ← transformCall (.exists root)
    return !there

/-- Remove the intermediate directories, up to the first that cannot be removed. -/
def removeRoots : List String → TransformM File Unit
  | [] => return ()
  | root :: rest => do
      if ← removeRoot root then removeRoots rest else return ()

structure TransformReport where
  executionId : String
  operationsAttempted : Nat
  operationsCompleted : Nat
  finalDestination : String
  inputFiles : List String
  outputFiles : List String
  counts : FileCounts

def CompiledSegment.operations : CompiledSegment → Nat
  | .fused segment => segment.stepIndices.length
  | .barrier _ => 1

def executePlan (plan : ExecutablePlan) : TransferM File TransformReport := do
  let counts ← executeSegments env ⟨0, 0⟩ plan.segments
  Fallible.inl (removeRoots plan.intermediateRoots)
  return {
    executionId := plan.executionId
    operationsAttempted := plan.steps.length
    operationsCompleted := (plan.segments.map CompiledSegment.operations).sum
    finalDestination := plan.finalOutput
    inputFiles := (plan.steps.head?.map (·.inputs)).getD []
    outputFiles := (plan.steps.getLast?.map fun step =>
      (resolveInputsWith env.parseObject env.glob step.output).toOption.getD []).getD []
    counts := counts }

/-!
# Polling the fused inputs

`FusedInputStream::poll_next` of `storage_routing.rs`, polled until its first error or its end.
-/

open List

abbrev BatchItem : Type := Except ColumnarError Batch

/-- What the polls of a stream give until it ends; `none` is a pending one. -/
abbrev BatchStream : Type := List (Option BatchItem)

/-- How inputs become streams and batches are transformed. -/
structure FusedSource (File : Type) where
  env : ExecEnv File
  intoStream : Storage.ObjectLocation → Except ColumnarError BatchStream
  pipeline : Option Pipeline

/-- Inputs that are not opened yet, and what is left of the current one; there is nothing left
of one that has ended. -/
structure FusedInputStream where
  inputs : List String
  current : BatchStream

inductive Polled where
  | pending
  | finished
  | item (item : BatchItem)

variable (source : FusedSource File)

def openStream (uri : String) : Except ColumnarError BatchStream := do
  let location ← (source.env.parseObject uri).mapError fun error => .other error.display
  source.intoStream location

def transformItem (item : BatchItem) : BatchItem := do
  (executeOptional source.env.kernel source.pipeline (← item)).mapError
    fun error => .other error.display

/-- One call of `poll_next`, whose loop goes on to the next input when the current one ends. -/
def pollNext : BatchStream → List String → Polled × FusedInputStream
  | none :: rest, inputs => (.pending, ⟨inputs, rest⟩)
  | some item :: rest, inputs => (.item (transformItem source item), ⟨inputs, rest⟩)
  | [], [] => (.finished, ⟨[], []⟩)
  | [], uri :: inputs =>
    match openStream source uri with
    | .ok stream => pollNext stream inputs
    | .error error => (.item (.error error), ⟨inputs, []⟩)

lemma pollNext_decreases (current : BatchStream) (inputs : List String) :
    let polled := pollNext source current inputs
    polled.1 = .finished ∨ Prod.Lex (· < ·) (· < ·)
      (polled.2.inputs.length, polled.2.current.length) (inputs.length, current.length) := by
  simp only [Prod.lex_def]
  fun_induction pollNext source current inputs with
  | case4 uri inputs stream opens ih => exact ih.imp_right fun less => by grind
  | _ => simp

/-- Batches of the polls up to the first error or the end, and which of them came. -/
def drain (state : FusedInputStream) : List Batch × Except ColumnarError Unit :=
  match _ : pollNext source state.current state.inputs with
  | (.pending, next) => drain next
  | (.finished, _) => ([], .ok ())
  | (.item (.error error), _) => ([], .error error)
  | (.item (.ok batch), next) => (batch :: (drain next).1, (drain next).2)
termination_by (state.inputs.length, state.current.length)
decreasing_by all_goals simpa [*] using pollNext_decreases source state.current state.inputs

/-! ## Mapped concatenation -/

/-- Pipeline applied to each batch of an input. -/
def itemsOf (uri : String) : List BatchItem :=
  match openStream source uri with
  | .ok stream => stream.reduceOption.map (transformItem source)
  | .error error => [.error error]

/-- Batches before the first error, and the error. -/
def beforeError : List BatchItem → List Batch × Except ColumnarError Unit
  | [] => ([], .ok ())
  | .error error :: _ => ([], .error error)
  | .ok batch :: rest => (batch :: (beforeError rest).1, (beforeError rest).2)

/-- Items that a stream has not yielded yet. -/
def FusedInputStream.items (state : FusedInputStream) : List BatchItem :=
  state.current.reduceOption.map (transformItem source) ++ state.inputs.flatMap (itemsOf source)

/-- What a poll and the items after it yield. -/
def Polled.before (items : List BatchItem) : Polled → List BatchItem
  | .pending => items
  | .finished => []
  | .item first => first :: items

lemma items_pollNext (state : FusedInputStream) :
    let polled := pollNext source state.current state.inputs
    state.items source = polled.1.before (polled.2.items source) := by
  obtain ⟨inputs, current⟩ := state
  dsimp only
  fun_induction pollNext source current inputs with
  | case4 uri inputs stream opens ih =>
    rw [← ih]
    simp [FusedInputStream.items, itemsOf, opens]
  | case5 uri inputs error opens => simp [FusedInputStream.items, itemsOf, opens, Polled.before]
  | _ => simp [FusedInputStream.items, Polled.before]

lemma drain_eq (state : FusedInputStream) :
    drain source state = beforeError (state.items source) := by
  fun_induction drain source state with
  | case1 state next polled ih => rw [ih, items_pollNext source state, polled, Polled.before]
  | case2 state next polled | case3 state error next polled =>
    rw [items_pollNext, polled, Polled.before, beforeError]
  | case4 state batch next polled ih =>
    rw [ih, items_pollNext source state, polled, Polled.before, beforeError]

lemma beforeError_eq_ok {items : List BatchItem} :
    (beforeError items).2 = .ok () ↔ ∀ item ∈ items, ∃ batch, item = .ok batch := by
  induction items with
  | nil => simp [beforeError]
  | cons item _ ih => cases item <;> simp [beforeError, ih]

/-- The polls yield the batches of the inputs in their order, each transformed once, up to the
first error. They end without one exactly when every open, read and transformation succeeds. -/
theorem polls_yield_mapped_inputs (inputs : List String) :
    drain source ⟨inputs, []⟩ = beforeError (inputs.flatMap (itemsOf source)) ∧
    ((drain source ⟨inputs, []⟩).2 = .ok () ↔
      ∀ uri ∈ inputs, ∃ stream, openStream source uri = .ok stream ∧
        ∀ item ∈ stream.reduceOption, ∃ batch, transformItem source item = .ok batch) := by
  have drains : drain source ⟨inputs, []⟩ = beforeError (inputs.flatMap (itemsOf source)) :=
    drain_eq source ⟨inputs, []⟩
  refine ⟨drains, ?_⟩
  simp only [drains, beforeError_eq_ok, mem_flatMap]
  constructor
  · intro all uri mem
    have items := fun item isItem => all item ⟨uri, mem, isItem⟩
    rw [itemsOf] at items
    cases opens : openStream source uri with
    | error => simp [opens] at items
    | ok stream => exact ⟨stream, rfl, by simpa [opens] using items⟩
  · intro all _ ⟨uri, mem, isItem⟩
    obtain ⟨_, opens, succeeds⟩ := all uri mem
    simp only [itemsOf, opens, mem_map] at isItem
    obtain ⟨read, isRead, rfl⟩ := isItem
    exact succeeds read isRead

end Parqonaut.Transform
