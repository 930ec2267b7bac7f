import Parqonaut.Transform.SegmentWrites

/-!
# Plans that can be executed

When the execution of a compiled plan meets an output layout that it does not know, or inputs that
the segment before has not written. The predicted outputs are the written ones only for plans of a
single segment.
-/

namespace Parqonaut.Transform

open Arrow Columnar Effects Repair Rust List String Result
open Storage Fallible

variable {File σ : Type}

/-! ## Segments of a plan -/

def CompiledSegment.inputs : CompiledSegment → List String
  | .fused segment => segment.inputs
  | .barrier segment => segment.step.inputs

section

variable {env : SpecEnv} {finalOutput : String}

/-- The segment that a group of steps is compiled to, and the outputs predicted for it. -/
inductive CompiledAs (env : SpecEnv) (finalOutput : String) (isLast : Bool)
    (inputs : List String) : StepGroup → CompiledSegment → List String → Prop where
  | barrier {index : Nat} {operation : Operation} {reason : String} {predicted : List String}
      (valid : validateStep operation inputs (segmentOutput env finalOutput isLast index) = .ok ())
      (predicts : predictOutputs env operation (segmentOutput env finalOutput isLast index)
        inputs = .ok predicted) :
      CompiledAs env finalOutput isLast inputs (.barrier index operation)
        (.barrier ⟨reason, index, operation, inputs, segmentOutput env finalOutput isLast index,
          !isLast, storageKind (segmentOutput env finalOutput isLast index)⟩) predicted
  | fused {start : Nat} {operations : List Operation} {ops : List FusedOperation}
      {indices : List Nat} {predicted : List String}
      (converts : operations.mapM operationToFused = .ok ops)
      (valid : ∀ operation ∈ operations, validateStep operation inputs
        (segmentOutput env finalOutput isLast start) = .ok ())
      (predicts : predictOutputsFromFused env ops (segmentOutput env finalOutput isLast start)
        inputs = .ok predicted) :
      CompiledAs env finalOutput isLast inputs (.fused start operations)
        (.fused ⟨indices, inputs, segmentOutput env finalOutput isLast start, ops, !isLast,
          storageKind (segmentOutput env finalOutput isLast start)⟩) predicted

variable {isLast : Bool} {state : CompileState} {group : StepGroup}

lemma compiledAs_of_compileGroup {next : CompileState}
    (compiles : compileGroup env finalOutput isLast state group = .ok next) :
    ∃ segment, next.segments = state.segments ++ [segment] ∧
      CompiledAs env finalOutput isLast state.currentInputs group segment next.currentInputs := by
  cases group with
  | barrier =>
    obtain ⟨_, valid, continues⟩ := bind_eq_ok.mp compiles
    obtain ⟨_, predicts, made⟩ := bind_eq_ok.mp continues
    cases made
    exact ⟨_, rfl, .barrier valid predicts⟩
  | fused =>
    obtain ⟨_, converts, continues⟩ := bind_eq_ok.mp compiles
    obtain ⟨_, valid, continues⟩ := bind_eq_ok.mp continues
    obtain ⟨_, predicts, made⟩ := bind_eq_ok.mp continues
    cases made
    exact ⟨_, rfl, .fused converts (forM_eq_ok.mp valid) predicts⟩

/-- The segments of some groups, each with the outputs predicted for the one before it. -/
inductive Compiled (env : SpecEnv) (finalOutput : String) :
    List String → List StepGroup → List CompiledSegment → Prop where
  | nil {inputs : List String} : Compiled env finalOutput inputs [] []
  | cons {inputs predicted : List String} {group : StepGroup} {rest : List StepGroup}
      {segment : CompiledSegment} {segments : List CompiledSegment}
      (first : CompiledAs env finalOutput rest.isEmpty inputs group segment predicted)
      (others : Compiled env finalOutput predicted rest segments) :
      Compiled env finalOutput inputs (group :: rest) (segment :: segments)

lemma compiled_of_compileGroups {groups : List StepGroup} {after : CompileState}
    (compiles : compileGroups env finalOutput groups state = .ok after) :
    ∃ segments, after.segments = state.segments ++ segments ∧
      Compiled env finalOutput state.currentInputs groups segments := by
  induction groups generalizing state with
  | nil =>
    cases compiles
    exact ⟨[], (append_nil _).symm, .nil⟩
  | cons _ _ ih =>
    obtain ⟨_, first, continues⟩ := bind_eq_ok.mp compiles
    obtain ⟨segment, appended, compiledAs⟩ := compiledAs_of_compileGroup first
    obtain ⟨segments, others, compiled⟩ := ih continues
    refine ⟨segment :: segments, ?_, .cons compiledAs compiled⟩
    rw [others, appended, List.append_assoc]
    rfl

lemma compiled_of_compilePlan {spec : Spec} {plan : ExecutablePlan}
    (compiles : compilePlan env spec = .ok plan) :
    spec.steps ≠ [] ∧ ∃ inputs,
      Compiled env (spec.output.getD "") inputs (groupSteps 0 spec.steps) plan.segments := by
  obtain ⟨nonempty, inputs, _, -, -, same, groups⟩ := state_of_compilePlan compiles
  obtain ⟨_, isAll, compiled⟩ := compiled_of_compileGroups groups
  rw [nil_append] at isAll
  exact ⟨nonempty, inputs, same ▸ isAll ▸ compiled⟩

variable {inputs : List String}

lemma inputs_of_compiledAs {predicted : List String} {segment : CompiledSegment}
    (compiled : CompiledAs env finalOutput isLast inputs group segment predicted) :
    segment.inputs = inputs := by
  cases compiled with
  | barrier => rfl
  | fused => rfl

variable {output : String}

/-- A step that passes its check has an input. -/
lemma nonempty_of_validateStep {operation : Operation}
    (valid : validateStep operation inputs output = .ok ()) : inputs ≠ [] := by
  rintro rfl
  cases operation with
  | rewrite => cases valid
  | partition columns =>
    cases columns with
    | nil => cases valid
    | cons => cases valid
  | merge => cases valid
  | split => cases valid

lemma columns_of_validateStep {columns : List String}
    (valid : validateStep (.partition columns) inputs output = .ok ()) : columns ≠ [] := by
  rintro rfl
  cases valid

/-! ## Groups of steps -/

def StepGroup.operations : StepGroup → List Operation
  | .barrier _ operation => [operation]
  | .fused _ operations => operations

/-- A barrier is a barrier, and fused steps are none. -/
def StepGroup.WellFormed : StepGroup → Prop
  | .barrier _ operation => isBarrierOperation operation = true
  | .fused _ operations => operations ≠ [] ∧
      ∀ operation ∈ operations, isBarrierOperation operation = false

lemma groupSteps_spec (index : Nat) (steps : List Operation) :
    (groupSteps index steps).flatMap StepGroup.operations = steps ∧
      ∀ group ∈ groupSteps index steps, group.WellFormed := by
  induction steps generalizing index with
  | nil => simp [groupSteps]
  | cons _ _ ih =>
    obtain ⟨whole, each⟩ := ih (index + 1)
    rw [groupSteps]
    split
    · rename_i barrier
      refine ⟨?_, forall_mem_cons.mpr ⟨barrier, each⟩⟩
      rw [flatMap_cons, whole]
      rfl
    · rename_i fused
      rw [Bool.not_eq_true] at fused
      split
      · rename_i isGroups
        rw [isGroups] at whole each
        obtain ⟨⟨_, free⟩, others⟩ := forall_mem_cons.mp each
        refine ⟨?_, forall_mem_cons.mpr ⟨⟨cons_ne_nil _ _, ?_⟩, others⟩⟩
        · rw [← whole]
          rfl
        · exact forall_mem_cons.mpr ⟨fused, free⟩
      · refine ⟨?_, forall_mem_cons.mpr ⟨⟨cons_ne_nil _ _, ?_⟩, each⟩⟩
        · rw [flatMap_cons, whole]
          rfl
        · intro _ mem
          rw [mem_singleton.mp mem]
          exact fused

lemma nonempty_of_compiledAs {inputs predicted : List String} {segment : CompiledSegment}
    (wellFormed : group.WellFormed)
    (compiled : CompiledAs env finalOutput isLast inputs group segment predicted) :
    inputs ≠ [] := by
  cases compiled with
  | barrier valid => exact nonempty_of_validateStep valid
  | fused _ valid =>
    obtain ⟨operation, mem⟩ := exists_mem_of_ne_nil _ wellFormed.1
    exact nonempty_of_validateStep (valid operation mem)

/-- Steps without a barrier are one group. -/
lemma groupSteps_of_fused {index : Nat} {steps : List Operation} (nonempty : steps ≠ [])
    (free : ∀ step ∈ steps, isBarrierOperation step = false) :
    groupSteps index steps = [.fused index steps] := by
  induction steps generalizing index with
  | nil => exact absurd rfl nonempty
  | cons _ rest ih =>
    obtain ⟨here, later⟩ := forall_mem_cons.mp free
    rw [groupSteps, if_neg (by rw [here]; exact Bool.false_ne_true)]
    cases rest with
    | nil => rfl
    | cons =>
      rw [ih (cons_ne_nil _ _) later]

/-! ## Partition columns of a segment -/

variable {ops : List FusedOperation} {options : FusedOptions} {columns : List String}

lemma mem_of_partitionBy (set : (ops.foldl FusedOptions.update options).partitionBy =
      some columns) : options.partitionBy = some columns ∨ .partition columns ∈ ops := by
  induction ops generalizing options with
  | nil => exact .inl set
  | cons operation _ ih =>
    rcases ih set with here | later
    · cases operation with
      | rewrite | merge => exact .inl here
      | partition =>
        cases here
        exact .inr mem_cons_self
    · exact .inr (mem_cons_of_mem _ later)

lemma partitionBy_of_mem (unset : (ops.foldl FusedOptions.update options).partitionBy = none) :
    options.partitionBy = none ∧ ∀ columns, .partition columns ∉ ops := by
  induction ops generalizing options with
  | nil => exact ⟨unset, fun _ => not_mem_nil⟩
  | cons operation _ ih =>
    obtain ⟨here, later⟩ := ih unset
    cases operation with
    | rewrite | merge => exact ⟨here, by simp [later]⟩
    | partition => cases here

lemma operationToFused_eq_partition {operation : Operation} :
    operationToFused operation = .ok (.partition columns) ↔ operation = .partition columns := by
  cases operation with
  | partition | merge | split => simp [operationToFused]
  | rewrite =>
    rw [operationToFused]
    split
    · simp
    · simp

lemma partition_mem_iff {operations : List Operation}
    (converts : operations.mapM operationToFused = .ok ops) :
    .partition columns ∈ ops ↔ .partition columns ∈ operations := by
  rw [mem_iff_of_mapM converts]
  simp [operationToFused_eq_partition]

/-! ## Where segments write -/

section

variable {env : ExecEnv File} {segment : FusedPlanSegment}

/-- The name of the file starts like that of a part. -/
def PartPath (path : String) : Prop :=
  ∃ dirs name, Str.split path '/' = dirs ++ [name] ∧ "part-".toList <+: name.toList

lemma engineFails_resolveInputsWith {parseObject : String → Except StorageError ObjectLocation}
    {glob : String → Except String (List (Except String String))} {pattern : String} :
    EngineFails (resolveInputsWith parseObject glob pattern) := by
  unfold resolveInputsWith
  split
  · split
    · exact fails_ok
    · exact fails_error rfl
  · split
    · exact fails_error rfl
    · exact fails_bind (fails_mapM fun _ => fails_mapError fun _ => rfl) fun _ => fails_ok

lemma partPath_split {directory : String} {bytes : Nat} {options : WriterOptions} (idx : Nat) :
    PartPath ((⟨directory, "part", bytes, options⟩ : MergeTarget).partPath idx) := by
  have name : ("part" ++ "-part-" ++ Str.zeroPadded 4 idx ++ ".parquet").toList =
      "part-".toList ++ ("part-".toList ++ (Str.zeroPadded 4 idx).toList ++ ".parquet".toList) := by
    simp only [toList_append, List.append_assoc]
    rfl
  have free : '/' ∉ ("part" ++ "-part-" ++ Str.zeroPadded 4 idx ++ ".parquet").toList := by
    simp only [toList_append, mem_append, not_or]
    refine ⟨⟨by decide, ?_⟩, by decide⟩
    intro mem
    exact absurd (Str.isDigit_of_mem_zeroPadded mem) (by decide)
  obtain ⟨before, isSplit⟩ := exists_split_join directory free
  exact ⟨before, _, isSplit, _, name.symm⟩

variable {step : ResolvedStep}

lemma within_executeSplit {size : Option Nat} :
    LocalWithin PartPath (fun _ => True) (executeSplit env step size) := by
  unfold executeSplit
  split
  · exact within_throw (otherError_of_engine rfl)
  · refine within_bind (within_splitParts partPath_split) fun _ _ => ?_
    · exact within_bind (within_transformResult engineFails_resolveInputsWith) fun _ _ =>
        within_pure trivial

lemma within_executeStep : RoutedWithin PartPath (fun _ => True) (executeStep env step) := by
  unfold executeStep
  split
  · exact within_inl within_executeSplit
  all_goals exact within_throw (otherError_of_engine rfl)

/-- A segment that partitions stores parts of partitions. -/
lemma within_partitioned (partitioned : (fusedOptions segment.ops).partitionBy = some columns)
    (nonempty : columns ≠ []) :
    RoutedWithin HivePath (fun _ => True) (executeFusedSegment env segment) := by
  rw [executeFusedSegment]
  split
  · refine within_bind (within_transferResult engineFails_fusedPipeline) fun _ _ => ?_
    rw [partitioned]
    exact within_bind (within_fusedPartition nonempty) fun _ _ => within_pure trivial
  · refine within_inl ?_
    refine within_bind (within_transformResult engineFails_fusedPipeline) fun _ _ => ?_
    refine within_bind within_collect fun batches _ => ?_
    unfold writeFused
    dsimp only
    rw [partitioned]
    exact within_bind (within_partitionRecordBatches nonempty) fun _ _ => within_pure trivial

lemma within_fusedRewrite {pipeline : Option Pipeline} :
    RoutedWithin (fun _ => True) (fun _ => True)
      (fusedRewriteToStorage env inputs output pipeline) := by
  refine within_bind (within_transferResult (fails_mapError fun _ => rfl)) fun location _ => ?_
  refine within_bind within_schemaFromInputs fun _ _ => ?_
  refine within_bind within_fusedInputStream fun _ _ => within_storageSink ?_
  cases location with
  | localFile => trivial
  | s3 => trivial

lemma within_localSink {path : String} {schema : Schema} {batches : List Batch} :
    LocalWithin (fun _ => True) (fun _ => True) (localSink env path schema batches) := by
  refine within_bind (within_columnarParent fun _ => rfl) fun _ _ => ?_
  refine within_bind (within_columnarCall (fun _ => rfl) (storesAt_write trivial)) fun _ _ => ?_
  refine within_bind (within_transformResult (fails_mapError fun _ => rfl)) fun _ _ => ?_
  split
  · exact within_throw (otherError_of_engine rfl)
  · exact within_columnarCall (fun _ => rfl) (storesAt_write trivial)

/-- A segment that writes one parquet file does not fail because of the layout. -/
lemma within_single (whole : (fusedOptions segment.ops).partitionBy = none)
    (parquet : Str.endsWith segment.output ".parquet" = true) :
    RoutedWithin (fun _ => True) (fun _ => True) (executeFusedSegment env segment) := by
  rw [executeFusedSegment]
  split
  · refine within_bind (within_transferResult engineFails_fusedPipeline) fun _ _ => ?_
    dsimp only
    rw [whole]
    rw [if_pos parquet]
    exact within_bind within_fusedRewrite fun _ _ => within_pure trivial
  · refine within_inl ?_
    refine within_bind (within_transformResult engineFails_fusedPipeline) fun _ _ => ?_
    refine within_bind within_collect fun batches _ => ?_
    unfold writeFused
    dsimp only
    rw [whole]
    rw [if_pos parquet]
    cases batches with
    | nil => exact within_throw (otherError_specError rfl (by decide))
    | cons =>
      exact within_bind within_localSink fun _ _ => within_pure trivial

/-- A segment with another layout never returns. -/
lemma within_unsupported (whole : (fusedOptions segment.ops).partitionBy = none)
    (other : Str.endsWith segment.output ".parquet" = false) :
    Within (fun _ => True) (fun _ => False) (fun _ => True) (executeFusedSegment env segment) := by
  rw [executeFusedSegment]
  split
  · refine within_bind within_true fun _ _ => ?_
    rw [whole]
    rw [other]
    exact within_throw trivial
  · refine within_inl ?_
    refine within_bind within_true fun _ _ => ?_
    refine within_bind within_true fun batches _ => ?_
    unfold writeFused
    dsimp only
    rw [whole]
    rw [other]
    exact within_throw trivial

end

/-! ## Predicted files -/

variable {index : Nat}

/-- Name of an intermediate directory. -/
def stepName (index : Nat) : String := "step-" ++ Str.zeroPadded 3 index

variable {c : Char}

lemma stepName_free (other : c ∉ "step-".toList) (nonDigit : c.isDigit = false) :
    c ∉ (stepName index).toList := by
  rw [stepName, toList_append, mem_append, not_or]
  refine ⟨other, fun mem => ?_⟩
  rw [Str.isDigit_of_mem_zeroPadded mem] at nonDigit
  cases nonDigit

lemma not_part_stepName {rest : List Char} : (stepName index).toList ≠ 'p' :: rest := by
  rw [stepName, toList_append, show "step-".toList = 's' :: "tep-".toList by decide]
  intro same
  exact absurd (cons.inj same).1 (by decide)

lemma segmentOutput_staged : segmentOutput env finalOutput false index =
    Path.join (stagingBase env finalOutput) (stepName index) := by
  rw [segmentOutput, if_neg Bool.false_ne_true, stepName]

lemma not_parquet_staged :
    Str.endsWith (segmentOutput env finalOutput false index) ".parquet" = false := by
  obtain ⟨_, joined⟩ := exists_join_eq (stagingBase env finalOutput) (stepName index)
  have digits : (Str.zeroPadded 3 index).toList ≠ [] := by
    rw [Str.zeroPadded, toList_ofList]
    refine ne_nil_of_length_pos ?_
    rw [List.length_leftpad]
    exact Nat.lt_of_lt_of_le (by decide) (Nat.le_max_left _ _)
  have output := (@segmentOutput_staged env finalOutput index).trans joined
  by_contra parquet
  rw [Bool.not_eq_false, Str.endsWith, isSuffixOf_iff_suffix, output, stepName,
    toList_append, toList_append, ← List.append_assoc] at parquet
  obtain ⟨_, same⟩ := parquet
  have last := congrArg getLast? same
  rw [getLast?_append_of_ne_nil _ digits, getLast?_append_of_ne_nil _ (by decide),
    show ".parquet".toList.getLast? = some 't' by decide] at last
  exact absurd (Str.isDigit_of_mem_zeroPadded (mem_of_getLast? last.symm)) (by decide)

/-- The execution id is a plain name. -/
structure PlainId (env : SpecEnv) : Prop where
  slash : '/' ∉ env.executionId.toList
  backslash : '\\' ∉ env.executionId.toList

def executionName (env : SpecEnv) : String := ".parqonaut-spec-" ++ env.executionId

lemma executionName_free (other : c ∉ ".parqonaut-spec-".toList)
    (plain : c ∉ env.executionId.toList) : c ∉ (executionName env).toList := by
  have letters : (executionName env).toList =
      ".parqonaut-spec-".toList ++ env.executionId.toList := toList_append
  rw [letters, mem_append, not_or]
  exact ⟨other, plain⟩

lemma ne_empty_of_append {first : String} (second : String) (nonempty : first ≠ "") :
    first ++ second ≠ "" := by
  intro empty
  exact nonempty (append_eq_empty_iff.mp empty).1

lemma stepName_ne_empty : stepName index ≠ "" := ne_empty_of_append _ (by decide)

lemma executionName_ne_empty : executionName env ≠ "" := ne_empty_of_append _ (by decide)

lemma isOpen_staged : IsOpen (segmentOutput env finalOutput false index) := by
  rw [segmentOutput_staged]
  exact isOpen_join _ (stepName_free (by decide) (by decide)) stepName_ne_empty

/-- The intermediate directories end with the names of the execution and of the step. -/
lemma split_staged (plain : PlainId env) :
    ∃ before, Str.split (segmentOutput env finalOutput false index) '/' =
      before ++ [executionName env] ++ [stepName index] := by
  have free := executionName_free (by decide) plain.slash
  have opened := isOpen_join ((Path.parent finalOutput).getD ".") free executionName_ne_empty
  obtain ⟨before, isSplit⟩ := exists_split_join ((Path.parent finalOutput).getD ".") free
  refine ⟨before, ?_⟩
  rw [segmentOutput_staged, ← isSplit]
  exact split_join_of_isOpen opened (stepName_free (by decide) (by decide))

/-- A file that is predicted for an intermediate directory: the directory itself, or a file
in it. -/
def PredictedIn (output path : String) : Prop :=
  path = output ∨ ∃ name, '/' ∉ name.toList ∧ path = Path.join output name

lemma not_partPath_staged (plain : PlainId env) :
    ¬ PartPath (segmentOutput env finalOutput false index) := by
  rintro ⟨_, _, isSplit, _, starts⟩
  obtain ⟨_, isStaged⟩ := @split_staged env finalOutput index plain
  rw [isStaged] at isSplit
  obtain ⟨-, same⟩ := append_inj' isSplit rfl
  rw [← (cons.inj same).1] at starts
  exact not_part_stepName starts.symm

variable {path : String}

lemma partPath_of_hivePath (hive : HivePath path) : PartPath path := by
  obtain ⟨dirs, idx, isSplit, -⟩ := hive
  refine ⟨dirs, partName idx, isSplit, (Str.zeroPadded 5 idx ++ ".parquet").toList, ?_⟩
  rw [← toList_append, partName, String.append_assoc]

lemma not_hivePath_predicted (plain : PlainId env)
    (predicted : PredictedIn (segmentOutput env finalOutput false index) path) :
    ¬ HivePath path := by
  intro hive
  obtain rfl | ⟨name, free, rfl⟩ := predicted
  · exact not_partPath_staged plain (partPath_of_hivePath hive)
  obtain ⟨_, isStaged⟩ := @split_staged env finalOutput index plain
  obtain ⟨_, _, isSplit, hiveDir⟩ := hive
  rw [split_join_of_isOpen isOpen_staged free, isStaged] at isSplit
  obtain ⟨same, -⟩ := append_inj' isSplit rfl
  -- Neither the name of the step nor that of the execution is marked.
  rcases hiveDir with ⟨_, _, rfl, marked⟩ | ⟨_, _, _, rfl, marked⟩
  · obtain ⟨-, isDir⟩ := append_inj' same rfl
    rw [← (cons.inj isDir).1] at marked
    rcases marked with equals | last
    · exact stepName_free (by decide) (by decide) equals
    · exact stepName_free (by decide) (by decide) (mem_of_getLast? last)
  · rw [List.append_assoc] at same
    obtain ⟨-, isDirs⟩ := append_inj' same rfl
    rw [← (cons.inj isDirs).1] at marked
    exact executionName_free (by decide) plain.backslash (mem_of_getLast? marked)

/-- No execution has used the intermediate directories before. -/
def FreshExecution (env : SpecEnv) (finalOutput : String) : Prop :=
  ∀ index entries, env.glob (segmentOutput env finalOutput false index) = .ok entries → entries = []

variable {predicted : List String}

lemma resolved_staged (fresh : FreshExecution env finalOutput)
    (resolves : resolveInputs env (segmentOutput env finalOutput false index) = .ok predicted) :
    ∀ path ∈ predicted, path = segmentOutput env finalOutput false index := by
  unfold resolveInputs resolveInputsWith at resolves
  split at resolves
  · split at resolves
    · cases resolves
      simp
    · cases resolves
  · split at resolves
    · cases resolves
    · rename_i entries globbed
      rw [fresh index entries globbed] at resolves
      cases resolves
      simp

lemma fileName_free {name : String} (isName : fileName path = some name) : '/' ∉ name.toList := by
  obtain ⟨last, named⟩ := Option.filter_eq_some_iff.mp isName
  have mem := mem_of_getLast? last
  rw [Path.components_eq, mem_append] at mem
  rcases mem with leading | piece
  · rw [Path.leading] at leading
    split at leading
    · rw [mem_singleton.mp leading] at named
      exact absurd named (by decide)
    · split at leading
      · rw [mem_singleton.mp leading]
        decide
      · cases leading
  · exact Str.free_of_mem_split (mem_filter.mp piece).1

lemma predictRewrite_staged : ∀ path ∈ predictRewrite output inputs, PredictedIn output path := by
  rw [predictRewrite]
  split
  · simp [PredictedIn]
  · intro _ mem
    obtain ⟨input, -, rfl⟩ := mem_map.mp mem
    refine .inr ⟨_, ?_, rfl⟩
    cases isName : fileName input with
    | none => decide
    | some => exact fileName_free isName

lemma predictMerge_staged : ∀ path ∈ predictMerge output, PredictedIn output path := by
  rw [predictMerge]
  split
  · simp [PredictedIn]
  · intro _ mem
    rw [mem_singleton.mp mem]
    exact .inr ⟨_, by decide, rfl⟩

lemma predictedIn_of_fused (fresh : FreshExecution env finalOutput) (nonempty : ops ≠ [])
    (predicts : predictOutputsFromFused env ops (segmentOutput env finalOutput false index)
      inputs = .ok predicted) :
    ∀ path ∈ predicted, PredictedIn (segmentOutput env finalOutput false index) path := by
  unfold predictOutputsFromFused at predicts
  split at predicts
  · rename_i none
    exact absurd (getLast?_eq_none_iff.mp none) nonempty
  · rw [← Except.ok.inj predicts]
    exact predictRewrite_staged
  · exact fun path mem => .inl (resolved_staged fresh predicts path mem)
  · rw [← Except.ok.inj predicts]
    exact predictMerge_staged

end

/-! ## Execution -/

section

variable {specEnv : SpecEnv} {env : ExecEnv File} {spec : Spec} {plan : ExecutablePlan}
variable {service : Service (FsRequest File ⊕ S3Request File)
  (SumResp FsRequest.Answer S3Request.Answer) σ} {start : σ}

/-- Neither an unsupported layout nor a missing intermediate input stops the plan: a segment reads
what the one before it has stored. -/
structure Executable (env : ExecEnv File) (service : Service (FsRequest File ⊕ S3Request File)
      (SumResp FsRequest.Answer S3Request.Answer) σ) (start : σ) (plan : ExecutablePlan) :
    Prop where
  layout : ∀ error after, Fails service (executePlan env plan) start error after →
    ¬ IsUnsupportedLayout error
  predicted : ∀ earlier first second later counts mid result after log,
    plan.segments = earlier ++ first :: second :: later →
    Returns service (executeSegments env ⟨0, 0⟩ earlier) start counts mid →
    Returns service.recording (executeSegment env first) (mid, []) result (after, log) →
    ∀ path, path ∈ second.inputs ↔ path ∈ log.filterMap writtenPath

/-- The inputs can be read and have the columns that the steps name: the first segment ends well,
or fails because of the layout only. -/
def ReadableInputs (env : ExecEnv File) (service : Service (FsRequest File ⊕ S3Request File)
      (SumResp FsRequest.Answer S3Request.Answer) σ) (start : σ) (plan : ExecutablePlan) : Prop :=
  ∀ first rest, plan.segments = first :: rest → ∃ outcome after,
    Program.Ends service (executeSegment env first).run start outcome after ∧
      ∀ error, outcome = .error error → IsUnsupportedLayout error

/-- A specification of one segment with a known layout: a single split, or steps without a barrier
that partition or write to a parquet file. -/
def Streamable (spec : Spec) : Prop :=
  (∃ size groups, spec.steps = [.split size groups]) ∨
  ((∀ step ∈ spec.steps, isBarrierOperation step = false) ∧
    ((∃ columns, .partition columns ∈ spec.steps) ∨
      Str.endsWith (spec.output.getD "") ".parquet" = true))

variable {inputs : List String} {group : StepGroup} {segment : CompiledSegment}

/-- What a segment stores is not what was predicted, or it never returns. -/
lemma intermediate_misses {finalOutput : String} {predicted : List String} (plain : PlainId specEnv)
    (fresh : FreshExecution specEnv finalOutput) (wellFormed : group.WellFormed)
    (compiled : CompiledAs specEnv finalOutput false inputs group segment predicted) :
    (∃ place, RoutedWithin place (fun _ => True) (executeSegment env segment) ∧
      ∀ path ∈ predicted, ¬ place path) ∨
    Within (fun _ => True) (fun _ => False) (fun _ => True) (executeSegment env segment) := by
  cases compiled with
  | @barrier _ operation _ _ _ predicts =>
    refine .inl ⟨PartPath, within_executeStep, ?_⟩
    cases operation with
    | split =>
      intro path mem
      rw [resolved_staged fresh predicts path mem]
      exact not_partPath_staged plain
    | rewrite | partition | merge => cases wellFormed
  | @fused _ _ ops _ _ converts valid predicts =>
    cases partitioned : (fusedOptions ops).partitionBy with
    | none =>
      refine .inr (within_unsupported ?_ ?_)
      · exact partitioned
      · exact not_parquet_staged
    | some =>
      rcases mem_of_partitionBy partitioned with never | mem
      · cases never
      have nonempty := columns_of_validateStep (valid _ ((partition_mem_iff converts).mp mem))
      refine .inl ⟨HivePath, within_partitioned ?_ nonempty, fun path isPath => ?_⟩
      · exact partitioned
      · exact not_hivePath_predicted plain
          (predictedIn_of_fused fresh (ne_nil_of_mem mem) predicts path isPath)

/-- The first segment of a plan that can be executed returns. -/
lemma returns_of_readable (executable : Executable env service start plan)
    (readable : ReadableInputs env service start plan) {first : CompiledSegment}
    {rest : List CompiledSegment} (segments : plan.segments = first :: rest) :
    ∃ result after, Returns service (executeSegment env first) start result after := by
  obtain ⟨outcome, after, ends, onlyLayout⟩ := readable first rest segments
  cases outcome with
  | ok result => exact ⟨result, after, ends⟩
  | error error =>
    have fails : Fails service (executeSegments env ⟨0, 0⟩ plan.segments) start error
        after := by
      rw [segments]
      exact fails_bind.mpr (.inl ends)
    exact absurd (onlyLayout error rfl)
      (executable.layout error after (fails_bind.mpr (.inl fails)))

variable {place : String → Prop}

/-- Whatever is recorded of a segment was stored at a good place. -/
lemma place_of_recorded {α : Type} {good : α → Prop}
    {prog : TransferM File α} {before after : σ} {value : α}
    {log : List (FsRequest File ⊕ S3Request File)} (within : RoutedWithin place good prog)
    (returns : Returns service.recording prog (before, []) value (after, log)) :
    ∀ path ∈ log.filterMap writtenPath, place path := by
  intro path mem
  obtain ⟨request, asked, isPath⟩ := mem_filterMap.mp mem
  rcases Program.Asks.of_recorded within returns request asked with never | allowed
  · cases never
  · exact allowed path isPath

/-- A plan with an intermediate segment cannot be executed. -/
lemma not_executable_of_two {next : StepGroup} {rest : List StepGroup} (plain : PlainId specEnv)
    (fresh : FreshExecution specEnv (spec.output.getD ""))
    (readable : ReadableInputs env service start plan) (wellFormed : group.WellFormed)
    (nextFormed : next.WellFormed)
    (compiled : Compiled specEnv (spec.output.getD "") inputs (group :: next :: rest)
      plan.segments) : ¬ Executable env service start plan := by
  intro executable
  generalize isSegments : plan.segments = segments at compiled
  cases compiled with
  | @cons _ predicted _ _ segment _ first others =>
    cases others with
    | @cons _ _ _ _ second later compiledNext =>
      obtain ⟨_, _, returns⟩ := returns_of_readable executable readable isSegments
      obtain ⟨_, recorded⟩ := Program.Ends.recorded [] returns
      rcases @intermediate_misses File specEnv env _ _ _ _ _ plain fresh wellFormed first with
        ⟨place, within, misses⟩ | never
      · obtain ⟨path, mem⟩ :=
          exists_mem_of_ne_nil _ (nonempty_of_compiledAs nextFormed compiledNext)
        have isInput : path ∈ second.inputs := by
          rw [inputs_of_compiledAs compiledNext]
          exact mem
        have stored := (executable.predicted [] segment second later _ start _ _ _ isSegments
          returns_value recorded path).mp isInput
        exact misses path mem (place_of_recorded within recorded path stored)
      · exact never.asks.of_returns returns

lemma within_removeRoots {roots : List String} :
    LocalWithin place (fun _ => True) (removeRoots roots : TransformM File Unit) := by
  induction roots with
  | nil => exact within_pure trivial
  | cons root _ ih =>
    have removed : LocalWithin place (fun _ => True) (removeRoot root : TransformM File Bool) := by
      refine within_request_bind (storesAt_of_none rfl) fun answer => ?_
      cases answer with
      | ok => exact within_pure trivial
      | error =>
        exact within_bind (within_localCall (storesAt_of_none rfl)) fun _ _ => within_pure trivial
    refine within_bind removed fun gone _ => ?_
    cases gone with
    | true => exact ih
    | false => exact within_pure trivial

/-- A plan of one segment with a known layout can be executed. -/
lemma executable_of_single (segments : plan.segments = [segment])
    (within : RoutedWithin place (fun _ => True) (executeSegment env segment)) :
    Executable env service start plan where
  layout error after fails := by
    have whole : RoutedWithin place (fun _ => True) (executePlan env plan) := by
      have all : RoutedWithin place (fun _ => True) (executeSegments env ⟨0, 0⟩ plan.segments) := by
        rw [segments]
        exact within_bind within fun _ _ => within_pure trivial
      refine within_bind all fun _ _ => ?_
      exact within_bind (within_inl within_removeRoots) fun _ _ =>
        within_pure trivial
    exact whole.raises.of_fails fails
  predicted earlier first second later _ _ _ _ _ isSegments := by
    have long := congrArg List.length (segments.symm.trans isSegments)
    rw [List.length_append, length_cons, length_cons, length_cons, length_nil] at long
    omega

/-- A segment that is the whole plan. -/
lemma executable_single_iff
    (readable : ReadableInputs env service start plan) (wellFormed : group.WellFormed)
    (operations : group.operations = spec.steps)
    (compiled : Compiled specEnv (spec.output.getD "") inputs [group] plan.segments) :
    Executable env service start plan ↔ Streamable spec := by
  generalize isSegments : plan.segments = segments at compiled
  cases compiled with
  | @cons _ predicted _ _ segment _ first others =>
  cases others
  cases first with
  | @barrier index operation reason _ valid predicts =>
    refine iff_of_true (executable_of_single isSegments within_executeStep) (.inl ?_)
    cases operation with
    | split size groups => exact ⟨size, groups, operations.symm⟩
    | rewrite | partition | merge => cases wellFormed
  | @fused start steps ops indices _ converts valid predicts =>
    subst operations
    cases partitioned : (fusedOptions ops).partitionBy with
    | some columns =>
      rcases mem_of_partitionBy partitioned with never | isOp
      · cases never
      have mem := (partition_mem_iff converts).mp isOp
      have nonempty := columns_of_validateStep (valid _ mem)
      exact iff_of_true (executable_of_single isSegments (within_partitioned partitioned nonempty))
        (.inr ⟨wellFormed.2, .inl ⟨columns, mem⟩⟩)
    | none =>
      cases parquet : Str.endsWith (spec.output.getD "") ".parquet" with
      | true =>
        refine iff_of_true (executable_of_single isSegments (within_single ?_ ?_))
          (.inr ⟨wellFormed.2, .inr parquet⟩)
        · exact partitioned
        · exact parquet
      | false =>
        refine iff_of_false (fun executable => ?_) ?_
        · obtain ⟨_, _, returns⟩ :=
            returns_of_readable executable readable isSegments
          refine (within_unsupported ?_ ?_).asks.of_returns returns
          · exact partitioned
          · exact parquet
        · rintro (⟨size, groups, isSplit⟩ | ⟨-, ⟨columns, mem⟩ | ends⟩)
          · exact absurd (wellFormed.2 (.split size groups) (by simp [isSplit]))
              (by simp [isBarrierOperation])
          · exact (partitionBy_of_mem partitioned).2 columns ((partition_mem_iff converts).mpr mem)
          · rw [parquet] at ends
            cases ends

/-- A compiled plan can be executed exactly if it has a single segment with a known layout. -/
theorem executable_iff_streamable (compiles : compilePlan specEnv spec = .ok plan)
    (plain : PlainId specEnv) (fresh : FreshExecution specEnv (spec.output.getD ""))
    (readable : ReadableInputs env service start plan) :
    Executable env service start plan ↔ Streamable spec := by
  obtain ⟨nonempty, _, compiled⟩ := compiled_of_compilePlan compiles
  obtain ⟨whole, wellFormed⟩ := groupSteps_spec 0 spec.steps
  cases groups : groupSteps 0 spec.steps with
  | nil =>
    rw [groups] at whole
    exact absurd whole.symm nonempty
  | cons _ rest =>
    rw [groups] at whole wellFormed compiled
    obtain ⟨here, later⟩ := forall_mem_cons.mp wellFormed
    cases rest with
    | nil =>
      rw [flatMap_singleton] at whole
      exact executable_single_iff readable here whole compiled
    | cons next =>
      have nextFormed := later next mem_cons_self
      refine iff_of_false (not_executable_of_two plain fresh readable here nextFormed compiled) ?_
      rintro (⟨_, _, isSplit⟩ | ⟨free, -⟩)
      · rw [isSplit] at groups
        cases groups
      · rw [groupSteps_of_fused nonempty free] at groups
        cases groups

end

/-! ## A rewrite before a split -/

namespace Reference

/-- No file but the input exists. -/
def freshEnv : SpecEnv where
  executionId := "id"
  parseObject := parseObject
  glob := fun pattern => .ok (if pattern = "/in/t.parquet" then [.ok pattern] else [])
  isFile := fun _ => false
  isNonemptyDir := fun _ => false

lemma freshEnv_plain : PlainId freshEnv := ⟨by decide, by decide⟩

lemma freshEnv_fresh {output : String} : FreshExecution freshEnv output := by
  intro index _ globbed
  have ends := @not_parquet_staged freshEnv output index
  have other : segmentOutput freshEnv output false index ≠ "/in/t.parquet" := by
    intro same
    rw [same] at ends
    exact absurd ends (by decide)
  change Except.ok (if _ = "/in/t.parquet" then _ else []) = _ at globbed
  rw [if_neg other] at globbed
  exact (Except.ok.inj globbed).symm

def rewriteThenSplit : Spec :=
  ⟨1, some "/in/t.parquet", some "/out", [.rewrite (rewriteOf none), .split none none], false⟩

def compiledOf (spec : Spec) : ExecutablePlan :=
  ((compilePlan freshEnv spec).toOption).getD ⟨"", 0, "", "", false, [], [], []⟩

def storage : Service (FsRequest Table ⊕ S3Request Table)
    (SumResp FsRequest.Answer S3Request.Answer) (Disk Table × Unit) :=
  (Disk.service tools.created).both noObjects

def stagedLayout : ParqknifeError := unsupportedLayout "fused" "/.parqonaut-spec-id/step-000"

def stagedSegment : CompiledSegment :=
  .fused ⟨[0], ["/in/t.parquet"], "/.parqonaut-spec-id/step-000",
    [.rewrite (rewriteOf none).fused], true, .localDisk⟩

lemma stagedSegment_fails : ∃ after, Fails storage (executeSegment execEnv stagedSegment) (disk, ())
      stagedLayout after :=
  fails_of_eval (by decide +kernel)

lemma rewriteThenSplit_fails :
    ∃ after, Fails storage (executePlan execEnv (compiledOf rewriteThenSplit)) (disk, ())
      stagedLayout after :=
  fails_of_eval (by decide +kernel)

/-- The rewrite is to write its intermediate files to a directory, which it cannot. -/
theorem rewrite_before_split_fails :
    compilePlan freshEnv rewriteThenSplit = .ok (compiledOf rewriteThenSplit) ∧
    ReadableInputs execEnv storage (disk, ()) (compiledOf rewriteThenSplit) ∧
    ¬ Executable execEnv storage (disk, ()) (compiledOf rewriteThenSplit) := by
  refine ⟨by decide +kernel, ?_, ?_⟩
  · intro _ _ segments
    have head : (compiledOf rewriteThenSplit).segments.head? = some stagedSegment := by
      decide +kernel
    rw [segments, head?_cons, Option.some.injEq] at head
    obtain ⟨after, fails⟩ := stagedSegment_fails
    refine ⟨.error stagedLayout, after, head ▸ fails, fun error raised => ?_⟩
    exact ⟨"fused", "/.parqonaut-spec-id/step-000", (Except.error.inj raised).symm⟩
  · intro executable
    obtain ⟨after, fails⟩ := rewriteThenSplit_fails
    exact executable.layout stagedLayout after fails ⟨_, _, rfl⟩

def rewriteToFile : Spec :=
  ⟨1, some "/in/t.parquet", some "/out/u.parquet", [.rewrite (rewriteOf none)], false⟩

def fileSegment : CompiledSegment :=
  .fused ⟨[0], ["/in/t.parquet"], "/out/u.parquet", [.rewrite (rewriteOf none).fused], false,
    .localDisk⟩

lemma fileSegment_returns :
    ∃ counts after, Returns storage (executeSegment execEnv fileSegment) (disk, ()) counts after ∧
        decide (writtenRows tools after.1 "/out/u.parquet" = some [integerRow [1, 2]]) = true :=
  exists_returns_of_eval (by decide +kernel)

/-- A rewrite to a single file is executed. -/
theorem rewrite_to_file_executable :
    compilePlan freshEnv rewriteToFile = .ok (compiledOf rewriteToFile) ∧
    Executable execEnv storage (disk, ()) (compiledOf rewriteToFile) := by
  have compiles : compilePlan freshEnv rewriteToFile = .ok (compiledOf rewriteToFile) := by
    decide +kernel
  have streamable : Streamable rewriteToFile := by
    refine .inr ⟨?_, .inr (by decide)⟩
    intro _ mem
    rw [mem_singleton.mp mem]
    rfl
  refine ⟨compiles, (executable_iff_streamable compiles freshEnv_plain freshEnv_fresh ?_).mpr
    streamable⟩
  intro _ _ segments
  have head : (compiledOf rewriteToFile).segments.head? = some fileSegment := by decide +kernel
  rw [segments, head?_cons, Option.some.injEq] at head
  obtain ⟨counts, after, returns, -⟩ := fileSegment_returns
  refine ⟨.ok counts, after, head ▸ returns, fun error raised => ?_⟩
  cases raised

end Reference

end Parqonaut.Transform
