import Parqonaut.Repair.MergeRows
import Parqonaut.Transform.Fusion
import Parqonaut.Transform.HivePaths

/-!
# What segments write

The errors that a segment can fail with, and the places at which it stores files: a segment that
partitions stores parts only, and only the check of the layout fails because of the layout.
-/

namespace Parqonaut.Transform

open Arrow Columnar Effects Repair Rust List Result Storage

variable {File σ : Type}

/-! ## Errors about the layout -/

def IsUnsupportedLayout (error : ParqknifeError) : Prop :=
  ∃ kind output, error = unsupportedLayout kind output

/-- The error does not concern the layout. -/
def OtherError (error : ParqknifeError) : Prop := ¬ IsUnsupportedLayout error

/-- Errors of the transform engine that are not about the specification. -/
def isEngineError : ParqknifeError → Bool
  | .specError _ => false
  | _ => true

lemma otherError_of_engine {error : ParqknifeError} (engine : isEngineError error = true) :
    OtherError error := by
  rintro ⟨_, _, rfl⟩
  cases engine

lemma otherError_specError {message : String} {c : Char} {rest : List Char}
    (starts : message.toList = c :: rest) (other : c ≠ 'u') : OtherError (.specError message) := by
  rintro ⟨_, _, same⟩
  have letters := congrArg String.toList (ParqknifeError.specError.inj same)
  have first : ("unsupported " : String).toList = 'u' :: "nsupported ".toList := by decide
  rw [starts, String.append_assoc, String.append_assoc, String.toList_append, first,
    cons_append] at letters
  exact other (List.cons.inj letters).1

section

open Result

/-- The computation fails with errors of the engine only. -/
abbrev EngineFails {α : Type} (result : Except ParqknifeError α) : Prop :=
  Fails (fun error => isEngineError error = true) result

variable {batch : Batch} {name : String}

lemma engineFails_findColumn : EngineFails (findColumn batch name) := by
  rw [findColumn]
  split
  · exact fails_ok
  · exact fails_error rfl

lemma engineFails_downcast {dataType : DataType} {message : String}
    {column : Field × List Cell} : EngineFails (downcast dataType message column) :=
  fails_ite fails_ok (fails_error rfl)

variable {value : Value}

lemma engineFails_evalEq : EngineFails (evalEq batch name value) := by
  refine fails_bind engineFails_findColumn fun column => ?_
  split
  · exact fails_bind engineFails_downcast fun _ => fails_ok
  · exact fails_bind engineFails_downcast fun _ => fails_ok
  · exact fails_error rfl

lemma engineFails_evalOrder {holds : Int → Int → Bool}
    : EngineFails (evalOrder holds batch name value) := by
  refine fails_bind engineFails_findColumn fun column => ?_
  split
  · exact fails_bind engineFails_downcast fun _ => fails_ok
  · exact fails_error rfl

lemma engineFails_evalIn {values : List Value} : EngineFails (evalIn batch name values) := by
  refine fails_bind engineFails_findColumn fun column => ?_
  dsimp only
  split
  · exact fails_ok
  all_goals first
    | exact fails_error rfl
    | exact fails_bind engineFails_downcast fun _ => fails_ok

lemma engineFails_evaluateFilter {expr : FilterExpr} : EngineFails (evaluateFilter batch expr) := by
  induction expr with
  | eq => exact engineFails_evalEq
  | ne => exact fails_bind engineFails_evalEq fun _ => fails_ok
  | lt | le | gt | ge => exact engineFails_evalOrder
  | isIn => exact engineFails_evalIn
  | isNull | isNotNull => exact fails_bind engineFails_findColumn fun _ => fails_ok
  | and left right first second | or left right first second =>
    exact fails_bind first fun _ => fails_bind second fun _ => fails_ok
  | not _ ih => exact fails_bind ih fun _ => fails_ok

variable {schema : Schema}

lemma engineFails_fieldOf {missing : ParqknifeError}
    (engine : isEngineError missing = true) : EngineFails (fieldOf schema name missing) := by
  rw [fieldOf]
  split
  · exact fails_error engine
  · split
    · exact fails_error engine
    · exact fails_ok

lemma engineFails_newBatch {rows : List Row} :
    EngineFails (newBatch schema rows) := fails_mapError fun _ => rfl

variable {entry : String × String}

lemma engineFails_renameColumn {fields : Schema} :
    EngineFails (renameColumn schema fields entry) := by
  rw [renameColumn]
  dsimp only
  refine fails_ite (fails_bind (fails_error rfl) fun _ => ?_) ?_
  all_goals
    refine fails_bind (engineFails_fieldOf rfl) fun _ => ?_
    refine fails_ite (fails_bind (fails_error rfl) fun _ => fails_ok) fails_ok

variable {kernel : Kernel}

lemma engineFails_parseCastTarget {current : DataType} {nullable : Bool}
    {label : String} : EngineFails (parseCastTarget kernel current nullable label) := by
  rw [parseCastTarget]
  split
  · exact fails_ok
  · exact fails_ite fails_ok (fails_ite fails_ok (fails_ite fails_ok
      (fails_ite fails_ok (fails_error rfl))))

lemma engineFails_castColumn {table : Schema × List Row}
    : EngineFails (castColumn kernel schema table entry) := by
  refine fails_bind (engineFails_fieldOf rfl) fun _ => ?_
  refine fails_bind engineFails_parseCastTarget fun _ => ?_
  refine fails_bind ?_ fun _ => fails_ok
  exact fails_ite fails_ok (fails_mapError fun _ => rfl)

lemma engineFails_transform {transform : BatchTransform} :
    EngineFails (transform.transform kernel batch) := by
  cases transform with
  | projection =>
    exact fails_bind (fails_mapM fun _ => engineFails_fieldOf rfl) fun _ => engineFails_newBatch
  | filter => exact fails_bind engineFails_evaluateFilter fun _ => fails_ok
  | rename =>
    exact fails_bind (fails_foldlM fun _ _ => engineFails_renameColumn)
      fun _ => engineFails_newBatch
  | cast =>
    exact fails_bind (fails_foldlM fun _ _ => engineFails_castColumn) fun _ => engineFails_newBatch

lemma engineFails_executeOptional {pipeline : Option Pipeline}
    : EngineFails (executeOptional kernel pipeline batch) := by
  cases pipeline with
  | none => exact fails_ok
  | some => exact fails_foldlM fun _ _ => engineFails_transform

lemma engineFails_fusedPipeline {ops : List FusedOperation} :
    EngineFails (fusedPipeline kernel ops) := by
  rw [fusedPipeline]
  split
  · exact fails_ok
  · rename_i found
    obtain ⟨operation, -, isPipeline⟩ := List.exists_of_findSome?_eq_some found
    cases operation with
    | rewrite rewrite =>
      cases isPipeline
      refine fails_map (fails_bind ?_ fun _ => fails_ok)
      cases rewrite.ops.filter with
      | none => exact fails_ok
      | some => exact fails_bind (fails_mapError fun _ => rfl) fun _ => fails_ok
    | partition | merge => cases isPipeline

lemma engineFails_partitionKeys {columns : List String} :
    EngineFails (partitionKeys batch columns) := by
  rw [partitionKeys]
  refine fails_ite fails_ok ?_
  refine fails_bind (fails_mapM fun _ => engineFails_fieldOf rfl) fun _ => ?_
  refine fails_bind (fails_mapM fun row => fails_mapM fun _ => ?_) fun _ => fails_ok
  unfold arrayValueAt
  split
  · exact fails_ok
  · exact fails_ok
  · exact fails_error rfl

end

/-! ## What segments write -/

/-- Path or address at which a request stores a file. -/
def writtenPath : FsRequest File ⊕ S3Request File → Option String
  | .inl (.write path _) => some path
  | .inr (.put bucket key _) => some (ObjectLocation.s3 bucket key).displayUri
  | .inl _ | .inr _ => none

/-- Whatever the request stores is stored at a good place. -/
def StoresAt (place : String → Prop) (request : FsRequest File ⊕ S3Request File) : Prop :=
  ∀ path, writtenPath request = some path → place path

/-- A key of some values. -/
def IsKey (key : String) : Prop := ∃ values, key = keyOf values

lemma isKey_of_partitionKeys {batch : Batch} {columns : List String}
    {groups : List (String × Batch)} (keys : partitionKeys batch columns = .ok groups) :
    ∀ group ∈ groups, IsKey group.1 := by
  rw [partitionKeys] at keys
  split at keys
  · cases keys
    simp
  · obtain ⟨_, -, keys⟩ := bind_eq_ok.mp keys
    obtain ⟨_, -, keys⟩ := bind_eq_ok.mp keys
    cases keys
    intro _ mem
    obtain ⟨_, isKey, rfl⟩ := mem_map.mp mem
    obtain ⟨tuple, -, rfl⟩ := mem_map.mp (mem_dedup.mp isKey)
    exact ⟨tuple, rfl⟩

open Fallible

variable {env : ExecEnv File} {place : String → Prop}

/-- Storing files at good places and failing for other reasons than the layout. -/
abbrev LocalWithin {α : Type} (place : String → Prop) (good : α → Prop)
    (prog : TransformM File α) : Prop :=
  Within (fun request : FsRequest File => StoresAt place (.inl request)) good OtherError prog

abbrev RoutedWithin {α : Type} (place : String → Prop) (good : α → Prop)
    (prog : TransferM File α) : Prop :=
  Within (StoresAt place) good OtherError prog

lemma storesAt_of_none {request : FsRequest File ⊕ S3Request File}
    (nothing : writtenPath request = none) : StoresAt place request := by
  intro _ stored
  rw [nothing] at stored
  cases stored

variable {path : String}

lemma storesAt_write {contents : File} (good : place path) :
    StoresAt place (.inl (.write path contents)) := by
  intro _ stored
  cases stored
  exact good

variable {request : FsRequest File}

lemma within_localCall (allows : StoresAt place (.inl request)) :
    LocalWithin place (fun _ => True) (transformCall request) :=
  within_transformCall allows fun _ => otherError_of_engine rfl

lemma within_createDirAll :
    LocalWithin place (fun _ => True) (transformCall (.createDirAll path) : TransformM File Unit) :=
  within_localCall (storesAt_of_none rfl)

variable {convert : ColumnarError → ParqknifeError}

section

variable (engine : ∀ error, isEngineError (convert error) = true)
include engine

lemma within_columnarCall (allows : StoresAt place (.inl request)) :
    LocalWithin place (fun _ => True) (columnarCall convert request) := by
  refine within_request_bind allows fun answer => ?_
  cases answer with
  | ok => exact within_pure trivial
  | error => exact within_throw (otherError_of_engine (engine _))

lemma within_columnarRead :
    LocalWithin place (fun _ => True) (columnarCall convert (.read path) : TransformM File File) :=
  within_columnarCall engine (storesAt_of_none rfl)

lemma within_columnarParent :
    LocalWithin place (fun _ => True) (columnarParent convert path : TransformM File Unit) := by
  rw [columnarParent]
  split
  · rename_i parent _
    exact @within_columnarCall File place (.createDirAll parent) convert engine
      (storesAt_of_none rfl)
  · exact within_pure trivial

end

variable {α : Type}

variable {result : Except ParqknifeError α}

lemma within_transformResult (fails : EngineFails result) :
    LocalWithin place (fun value => result = .ok value)
      (transformResult result : TransformM File α) := by
  cases result with
  | ok => exact within_pure rfl
  | error error => exact within_throw (otherError_of_engine (fails error rfl))

lemma within_transferResult (fails : EngineFails result) :
    RoutedWithin place (fun value => result = .ok value)
      (transferResult result : TransferM File α) := by
  cases result with
  | ok => exact within_pure rfl
  | error error => exact within_throw (otherError_of_engine (fails error rfl))

variable {inputs : List String}

lemma within_collect {pipeline : Option Pipeline} :
    LocalWithin place (fun _ => True) (collectFusedBatches env pipeline inputs) := by
  induction inputs with
  | nil => exact within_pure trivial
  | cons input _ ih =>
    have first : LocalWithin place (fun _ => True) (collectInput env pipeline input) := by
      refine within_bind (within_columnarRead fun _ => rfl) fun contents _ => ?_
      split
      · exact within_throw (otherError_of_engine rfl)
      · exact (within_transformResult (fails_mapM fun _ =>
          engineFails_executeOptional)).weaken fun _ _ => trivial
    exact within_bind first fun _ _ => within_bind ih fun _ _ => within_pure trivial

/-! ### Local partitions -/

section

variable {tools : Toolkit File Schema Batch} {settings : PartitionSettings}
  {options : WriterOptions} {schema : Schema}

/-- All open writers are at parts of partitions. -/
def WritersAtParts (state : PartitionState) : Prop :=
  ∀ key writer, state.writers.lookup key = some writer → HivePath writer.path

lemma within_closePartition {writer : OpenPartition} (atPart : HivePath writer.path) :
    LocalWithin HivePath (fun _ => True) (closePartition tools options schema writer) := by
  exact within_bind (within_parquetResult fun _ => otherError_of_engine rfl) fun _ _ =>
    within_localCall (storesAt_write atPart)

variable {state : PartitionState}

lemma within_evictOldest (atParts : WritersAtParts state) :
    LocalWithin HivePath WritersAtParts (evictOldest tools options schema state) := by
  rw [evictOldest]
  split
  · exact within_pure atParts
  · rename_i oldest _ _
    split
    · exact within_pure atParts
    · rename_i writer isOpen
      refine within_bind (within_closePartition (atParts oldest writer isOpen)) fun _ _ => ?_
      exact within_pure fun key other found => atParts key other (lookup_erase_eq_some.mp found).2

lemma within_openPartition {key : String} (isKey : IsKey key)
    (columns : settings.partitionBy ≠ []) (atParts : WritersAtParts state) :
    LocalWithin HivePath (fun opened => HivePath opened.1.path ∧ WritersAtParts opened.2)
      (openPartition tools settings options schema key state) := by
  obtain ⟨values, rfl⟩ := isKey
  have room : LocalWithin HivePath WritersAtParts
      (makeRoom tools settings options schema state) := by
    rw [makeRoom]
    split
    · exact within_evictOldest atParts
    · exact within_pure atParts
  refine within_bind room fun next nextAtParts => ?_
  have atPart := @hivePath_partitionDir settings.outputDir settings.partitionBy values columns
    (next.partCounters (keyOf values))
  refine within_bind within_createDirAll fun _ _ => ?_
  refine within_bind (within_localCall (storesAt_write atPart)) fun _ _ => ?_
  refine within_pure ⟨?_, nextAtParts⟩
  dsimp only
  exact atPart

lemma within_writeGroup {group : String × Batch}
    (isKey : IsKey group.1) (columns : settings.partitionBy ≠ []) (atParts : WritersAtParts state) :
    LocalWithin HivePath WritersAtParts (writeGroup tools settings options schema state group) := by
  have opened : LocalWithin HivePath
      (fun opened => HivePath opened.1.path ∧ WritersAtParts opened.2)
      (writerFor tools settings options schema group.1 state) := by
    rw [writerFor]
    split
    · rename_i writer isOpen
      exact within_pure ⟨atParts group.1 writer isOpen, atParts⟩
    · exact within_openPartition isKey columns atParts
  exact within_bind opened fun result atPart =>
    within_pure (forall_lookup_insert atPart.1 atPart.2)

lemma within_writeGroups {groups : List (String × Batch)}
    (areKeys : ∀ group ∈ groups, IsKey group.1) (columns : settings.partitionBy ≠ [])
    (atParts : WritersAtParts state) :
    LocalWithin HivePath WritersAtParts
      (writeGroups tools settings options schema groups state) := by
  induction groups generalizing state with
  | nil => exact within_pure atParts
  | cons _ _ ih =>
    obtain ⟨here, later⟩ := forall_mem_cons.mp areKeys
    exact within_bind (within_writeGroup here columns atParts) fun _ next => ih later next

variable {order : HashOrder} {batches : List Batch}

lemma within_partitionBatches {index : Nat} (columns : settings.partitionBy ≠ [])
    (atParts : WritersAtParts state) :
    LocalWithin HivePath WritersAtParts
      (partitionBatches tools settings options schema order index batches state) := by
  induction batches generalizing index state with
  | nil => exact within_pure atParts
  | cons _ _ ih =>
    refine within_bind (within_transformResult engineFails_partitionKeys) fun groups keys => ?_
    have areKeys : ∀ group ∈ order.groups index groups, IsKey group.1 := fun group mem =>
      isKey_of_partitionKeys keys group ((order.groups_perm index groups).mem_iff.mp mem)
    exact within_bind (within_writeGroups areKeys columns atParts) fun _ next => ih next

lemma within_closeAll {entries : List (Sigma fun _ : String => OpenPartition)}
    (atParts : ∀ entry ∈ entries, HivePath entry.2.path) :
    LocalWithin HivePath (fun _ => True) (closeAll tools options schema entries) := by
  induction entries with
  | nil => exact within_pure trivial
  | cons _ _ ih =>
    obtain ⟨here, later⟩ := forall_mem_cons.mp atParts
    exact within_bind (within_closePartition here) fun _ _ => ih later

lemma within_partitionRecordBatches {kernel : Kernel} (columns : settings.partitionBy ≠ []) :
    LocalWithin HivePath (fun _ => True)
      (partitionRecordBatches tools kernel order settings batches) := by
  unfold partitionRecordBatches
  split
  · exact within_throw (otherError_of_engine rfl)
  · split
    · exact within_throw (otherError_of_engine rfl)
    · split
      · exact within_pure trivial
      · refine within_bind within_createDirAll fun _ _ => ?_
        have codec : EngineFails (settings.compression.mapM (compressionFromStr kernel)) := by
          cases settings.compression with
          | none => exact fails_ok
          | some =>
            exact fails_bind (fails_ite fails_ok (fails_error rfl)) fun _ => fails_ok
        refine within_bind (within_transformResult codec) fun codec _ => ?_
        have start : WritersAtParts .start := by
          intro _ _ found
          cases found
        refine within_bind (within_partitionBatches columns start) fun state atParts => ?_
        refine within_bind (within_closeAll fun entry mem => ?_) fun _ _ =>
          within_pure trivial
        have listed := (order.writers_perm _).mem_iff.mp mem
        exact atParts entry.1 entry.2 (AList.mem_lookup_iff.mpr listed)

end

/-! ### Routed partitions -/

section

variable {output : String} {partitionBy : List String} {maxOpen : Nat} {schema : FileSchema}

lemma within_readParquet {uri : String} :
    RoutedWithin place (fun _ => True) (readParquet env uri) := by
  refine within_bind (within_transferResult (fails_mapError fun _ => rfl)) fun location _ => ?_
  have read : RoutedWithin place (fun _ => True) (readObject location : TransferM File File) := by
    cases location with
    | localFile =>
      exact within_inl (within_columnarRead fun _ => rfl)
    | s3 =>
      refine within_inr (within_request_bind (storesAt_of_none rfl) fun answer => ?_)
      cases answer with
      | ok => exact within_pure trivial
      | error => exact within_throw (otherError_of_engine rfl)
  refine within_bind read fun contents _ => ?_
  split
  · exact within_throw (otherError_of_engine rfl)
  · exact within_pure trivial

lemma within_schemaFromInputs :
    RoutedWithin place (fun _ => True) (schemaFromInputs env inputs) := by
  unfold schemaFromInputs
  split
  · exact within_throw (otherError_specError rfl (by decide))
  · exact within_bind within_readParquet fun _ _ => within_pure trivial

variable {pipeline : Option Pipeline}

lemma within_fusedInputStream :
    RoutedWithin place (fun _ => True) (fusedInputStream env pipeline inputs) := by
  induction inputs with
  | nil => exact within_pure trivial
  | cons _ _ ih =>
    refine within_bind within_readParquet fun _ _ => ?_
    refine within_bind (within_transferResult (fails_mapError fun _ => rfl)) fun _ _ => ?_
    exact within_bind ih fun _ _ => within_pure trivial

/-- An object at a good place. -/
def AtPlace (place : String → Prop) : ObjectLocation → Prop
  | .localFile path => place path
  | .s3 bucket key => place (ObjectLocation.s3 bucket key).displayUri

variable {key : String} {idx : Nat} {location : ObjectLocation}

lemma atPart_of_objectUnderPrefix (isKey : IsKey key) (columns : partitionBy ≠ [])
    (found : objectUnderPrefix env output (hiveRelativePath partitionBy key idx) =
      .ok location) : AtPlace HivePath location := by
  obtain ⟨values, rfl⟩ := isKey
  obtain ⟨_, _, guarded, isPath⟩ := exists_hiveRelativePath_eq values columns idx
  rw [isPath] at found
  unfold objectUnderPrefix at found
  split at found
  · cases found
  · obtain ⟨_, pushes, made⟩ := bind_eq_ok.mp found
    cases made
    exact hivePath_of_pushPieces guarded pushes
  · obtain ⟨_, isObject, made⟩ := bind_eq_ok.mp found
    cases made
    exact hivePath_of_objectKey guarded (mapError_eq_ok.mp isObject)

lemma within_writeObject {contents : File} (atPlace : AtPlace place location) :
    RoutedWithin place (fun _ => True) (writeObject contents location) := by
  cases location with
  | localFile =>
    exact within_inl (within_bind (within_columnarParent fun _ => rfl) fun _ _ =>
      within_columnarCall (fun _ => rfl) (storesAt_write atPlace))
  | s3 =>
    refine within_inr (within_request_bind ?_ fun answer => ?_)
    · intro _ stored
      cases stored
      exact atPlace
    · cases answer with
      | ok => exact within_pure trivial
      | error => exact within_throw (otherError_of_engine rfl)

variable {batches : List Batch}

lemma within_storageSink (atPlace : AtPlace place location) :
    RoutedWithin place (fun _ => True) (storageSink env location schema batches) := by
  refine within_bind (within_transferResult (fails_mapError fun _ => rfl)) fun _ _ => ?_
  split
  · exact within_throw (otherError_of_engine rfl)
  · exact within_writeObject atPlace

lemma engineFails_objectUnderPrefix {relative : String} :
    EngineFails (objectUnderPrefix env output relative) := by
  have pushes : ∀ (pieces : List String) (path : String), EngineFails (pushPieces pieces path) := by
    intro pieces
    induction pieces with
    | nil => exact fun _ => fails_ok
    | cons _ _ ih =>
      intro path
      exact fails_ite (ih path) (fails_ite (fails_error rfl) (ih _))
  unfold objectUnderPrefix
  split
  · exact fails_error rfl
  · exact fails_bind (pushes _ _) fun _ => fails_ok
  · exact fails_bind (fails_mapError fun _ => rfl) fun _ => fails_ok

lemma within_flushPart (isKey : IsKey key) (columns : partitionBy ≠ []) :
    RoutedWithin HivePath (fun _ => True)
      (flushPart env output partitionBy schema key idx batches) := by
  refine within_bind (within_transferResult engineFails_objectUnderPrefix) fun location found => ?_
  exact within_bind (within_storageSink (atPart_of_objectUnderPrefix isKey columns found))
    fun _ _ => within_pure trivial

/-- All buffers are for keys of values. -/
def BuffersAtKeys (state : BufferState) : Prop :=
  ∀ key batches, state.buffers.lookup key = some batches → IsKey key

variable {state : BufferState}

lemma within_evictBuffer (columns : partitionBy ≠ []) (atKeys : BuffersAtKeys state) :
    RoutedWithin HivePath BuffersAtKeys (evictBuffer env output partitionBy schema state) := by
  unfold evictBuffer
  split
  · exact within_pure atKeys
  · rename_i oldest _ _
    split
    · exact within_pure atKeys
    · rename_i batches isOpen
      refine within_bind (within_flushPart (atKeys oldest batches isOpen) columns) fun _ _ => ?_
      exact within_pure fun key others found => atKeys key others (lookup_erase_eq_some.mp found).2

lemma within_openBuffer (columns : partitionBy ≠ []) (atKeys : BuffersAtKeys state) :
    RoutedWithin HivePath (fun opened => BuffersAtKeys opened.2)
      (openBuffer env output partitionBy maxOpen schema key state) := by
  unfold openBuffer
  split
  · exact within_pure atKeys
  · have room : RoutedWithin HivePath BuffersAtKeys
        (makeBufferRoom env output partitionBy maxOpen schema state) := by
      rw [makeBufferRoom]
      split
      · exact within_evictBuffer columns atKeys
      · exact within_pure atKeys
    exact within_bind room fun _ next => within_pure next

lemma within_bufferGroups {groups : List (String × Batch)}
    (areKeys : ∀ group ∈ groups, IsKey group.1) (columns : partitionBy ≠ [])
    (atKeys : BuffersAtKeys state) :
    RoutedWithin HivePath BuffersAtKeys
      (bufferGroups env output partitionBy maxOpen schema groups state) := by
  induction groups generalizing state with
  | nil => exact within_pure atKeys
  | cons _ _ ih =>
    obtain ⟨here, later⟩ := forall_mem_cons.mp areKeys
    exact within_bind (within_openBuffer columns atKeys) fun opened next =>
      ih later (forall_lookup_insert here next)

lemma within_bufferBatches {index : Nat}
    (columns : partitionBy ≠ []) (atKeys : BuffersAtKeys state) :
    RoutedWithin HivePath BuffersAtKeys
      (bufferBatches env output partitionBy maxOpen schema index batches state) := by
  induction batches generalizing index state with
  | nil => exact within_pure atKeys
  | cons _ _ ih =>
    refine within_bind (within_transferResult engineFails_partitionKeys) fun groups keys => ?_
    have areKeys : ∀ group ∈ env.order.groups index groups, IsKey group.1 :=
      fun group mem => isKey_of_partitionKeys keys group
        ((env.order.groups_perm index groups).mem_iff.mp mem)
    exact within_bind (within_bufferGroups areKeys columns atKeys) fun _ next => ih next

lemma within_flushAll {partCounters : String → Nat}
    {entries : List (Sigma fun _ : String => List Batch)} (columns : partitionBy ≠ [])
    (areKeys : ∀ entry ∈ entries, IsKey entry.1) :
    RoutedWithin HivePath (fun _ => True)
      (flushAll env output partitionBy schema partCounters entries) := by
  induction entries with
  | nil => exact within_pure trivial
  | cons _ _ ih =>
    obtain ⟨here, later⟩ := forall_mem_cons.mp areKeys
    exact within_bind (within_flushPart here columns) fun _ _ =>
      within_bind (ih later) fun _ _ => within_pure trivial

lemma within_fusedPartition (columns : partitionBy ≠ []) : RoutedWithin HivePath (fun _ => True)
      (fusedPartitionToStorage env inputs output partitionBy maxOpen pipeline) := by
  refine within_bind within_schemaFromInputs fun schema _ => ?_
  refine within_bind within_fusedInputStream fun batches _ => ?_
  have start : BuffersAtKeys .start := by
    intro _ _ found
    cases found
  refine within_bind (within_bufferBatches columns start) fun state atKeys => ?_
  refine within_bind (within_flushAll columns fun entry mem => ?_) fun _ _ =>
    within_pure trivial
  obtain ⟨_, isWriter, rfl⟩ := mem_map.mp mem
  obtain ⟨buffer, isBuffer, rfl⟩ :=
    mem_map.mp ((env.order.writers_perm _).mem_iff.mp isWriter)
  exact atKeys buffer.1 buffer.2 (AList.mem_lookup_iff.mpr isBuffer)

end

/-! ### Splits -/

lemma within_splitParts {tools : Toolkit File Schema Batch} {target : MergeTarget}
    (parts : ∀ idx, place (target.partPath idx)) :
    LocalWithin place (fun _ => True) (mergeParquetFiles tools target inputs) := by
  have raised : OfMerge OtherError := fun _ =>
    ⟨otherError_of_engine rfl, otherError_of_engine rfl, otherError_of_engine rfl⟩
  exact within_mergeParquetFiles raised (fun idx _ => storesAt_write (parts idx))
    (fun _ => storesAt_of_none rfl) (storesAt_of_none rfl)

end Parqonaut.Transform
