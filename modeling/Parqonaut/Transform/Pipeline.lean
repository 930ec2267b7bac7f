import Parqonaut.Columnar.Batch
import Parqonaut.Repair.Inspect
import Parqonaut.Rust.Result

/-!
# Transform pipelines

The projections, filters, renames and casts of `transforms.rs`, `filter.rs`, `compat.rs` and
`cast.rs`, and the pipeline that a rewrite stands for. A hash map is the list of its entries as it
is iterated. The cast kernel, the parser of filter texts and the case mappings are a parameter.
-/

namespace Parqonaut.Transform

open Arrow Repair Rust

/-! ## Filter expressions -/

/-- A literal of a filter. Floats are compared by their bits. -/
inductive Value where
  | int64 (value : Int)
  | float64 (bits : UInt64)
  | string (text : String)
  | bool (value : Bool)
  | null
  deriving DecidableEq

inductive FilterExpr where
  | eq (column : String) (value : Value)
  | ne (column : String) (value : Value)
  | lt (column : String) (value : Value)
  | le (column : String) (value : Value)
  | gt (column : String) (value : Value)
  | ge (column : String) (value : Value)
  | isIn (column : String) (values : List Value)
  | isNull (column : String)
  | isNotNull (column : String)
  | and (left right : FilterExpr)
  | or (left right : FilterExpr)
  | not (inner : FilterExpr)

/-- A boolean array. -/
abbrev Mask : Type := List (Option Bool)

variable (batch : Batch) (name : String)

def columnNotFound : ParqknifeError :=
  .invalidInput ("Column not found: " ++ name)

def findColumn : Except ParqknifeError (Field × List Cell) :=
  match columnByName batch name with
  | some found => .ok found
  | none => .error (columnNotFound name)

/-- A downcast of a column to the arrays of a type. -/
def downcast (dataType : DataType) (message : String) (column : Field × List Cell) :
    Except ParqknifeError (List Cell) :=
  if column.1.dataType = dataType then .ok column.2 else .error (.filterError message)

/-- A comparison of a column with a constant; a NULL compares as false. -/
def compareCells (holds : Scalar → Bool) (cells : List Cell) : Mask :=
  cells.map fun cell => some (cell.any holds)

/-- The value is an integer that stands in a relation to a constant. -/
def Scalar.compareInt (holds : Int → Int → Bool) (constant : Int) : Scalar → Bool
  | .int value => holds value constant
  | _ => false

def notBool (mask : Mask) : Mask := mask.map (·.map (!·))

/-- Conjunction in three-valued logic. -/
def andKleene : Option Bool → Option Bool → Option Bool
  | some false, _ | _, some false => some false
  | some true, some true => some true
  | _, _ => none

/-- Disjunction in three-valued logic. -/
def orKleene : Option Bool → Option Bool → Option Bool
  | some true, _ | _, some true => some true
  | some false, some false => some false
  | _, _ => none

def evalEq (value : Value) : Except ParqknifeError Mask := do
  let column ← findColumn batch name
  match value with
  | .int64 constant =>
    return compareCells (Scalar.compareInt (fun a b => a == b) constant)
      (← downcast .int64 "Type mismatch" column)
  | .string text =>
    return compareCells (· == .utf8 text) (← downcast .utf8 "Type mismatch" column)
  | _ => throw (.filterError "Unsupported comparison type")

def evalNe (value : Value) : Except ParqknifeError Mask := do
  return notBool (← evalEq batch name value)

/-- Comparisons that are defined for integers only. -/
def evalOrder (holds : Int → Int → Bool) (batch : Batch) (name : String) (value : Value) :
    Except ParqknifeError Mask := do
  let column ← findColumn batch name
  match value with
  | .int64 constant =>
    return compareCells (Scalar.compareInt holds constant)
      (← downcast .int64 "Type mismatch" column)
  | _ => throw (.filterError "Unsupported comparison type")

def evalLt : Batch → String → Value → Except ParqknifeError Mask :=
  evalOrder fun a b => decide (a < b)

def evalLe : Batch → String → Value → Except ParqknifeError Mask :=
  evalOrder fun a b => decide (a ≤ b)

def evalGt : Batch → String → Value → Except ParqknifeError Mask :=
  evalOrder fun a b => decide (a > b)

def evalGe : Batch → String → Value → Except ParqknifeError Mask :=
  evalOrder fun a b => decide (a ≥ b)

def floatIsNan (bits : UInt64) : Bool :=
  bits &&& 0x7FFFFFFFFFFFFFFF > 0x7FF0000000000000

/-- Equality of floats by value: the two zeros are equal, a NaN equals nothing. -/
def floatEq (a b : UInt64) : Bool :=
  !floatIsNan a && !floatIsNan b && (a == b || a <<< 1 == 0 && b <<< 1 == 0)

def matchesFloat (bits : UInt64) : Value → Bool
  | .float64 other => floatIsNan bits && floatIsNan other || floatEq bits other
  | _ => false

/-- The value is one of the literals. -/
def isMember (values : List Value) : Scalar → Bool
  | .boolean value => values.contains (.bool value)
  | .int value => values.contains (.int64 value)
  | .float bits => values.any (matchesFloat bits)
  | .utf8 text => values.contains (.string text)
  | .other _ => false

/-- The type of the column is taken from the first literal. -/
def evalIn (values : List Value) : Except ParqknifeError Mask := do
  let column ← findColumn batch name
  let mem (dataType : DataType) (label : String) : Except ParqknifeError Mask := do
    return compareCells (isMember values)
      (← downcast dataType ("Type mismatch for IN: expected " ++ label) column)
  match values with
  | [] => return column.2.map fun _ => some false
  | .int64 _ :: _ => mem .int64 "Int64"
  | .string _ :: _ => mem .utf8 "String"
  | .bool _ :: _ => mem .boolean "Bool"
  | .float64 _ :: _ => mem .float64 "Float64"
  | .null :: _ => throw (.filterError "IN operator cannot use NULL as a value")

def evalIsNull : Except ParqknifeError Mask := do
  let column ← findColumn batch name
  return column.2.map fun cell => some cell.isNone

def evalIsNotNull : Except ParqknifeError Mask := do
  let column ← findColumn batch name
  return column.2.map fun cell => some cell.isSome

def evaluateFilter : FilterExpr → Except ParqknifeError Mask
  | .eq column value => evalEq batch column value
  | .ne column value => evalNe batch column value
  | .lt column value => evalLt batch column value
  | .le column value => evalLe batch column value
  | .gt column value => evalGt batch column value
  | .ge column value => evalGe batch column value
  | .isIn column values => evalIn batch column values
  | .isNull column => evalIsNull batch column
  | .isNotNull column => evalIsNotNull batch column
  | .and left right => do
      let left ← evaluateFilter left
      let right ← evaluateFilter right
      return List.zipWith andKleene left right
  | .or left right => do
      let left ← evaluateFilter left
      let right ← evaluateFilter right
      return List.zipWith orKleene left right
  | .not inner => do
      return notBool (← evaluateFilter inner)

/-! ## Transforms -/

/-- What the transforms take from other libraries. -/
structure Kernel where
  lowercase : String → String
  uppercase : String → String
  parseFilter : String → Except String FilterExpr
  cast : (source target : DataType) → Except String (Cell → Cell)

variable (kernel : Kernel) (schema : Schema)

/-- Type and nullability that the label of a cast asks for. -/
def parseCastTarget (current : DataType) (currentNullable : Bool) (label : String) :
    Except ParqknifeError (DataType × Bool) :=
  match Str.stripPrefix (kernel.lowercase label) "nullable=" with
  | some value => .ok (current, value == "true")
  | none =>
    let upper := kernel.uppercase label
    if Str.contains upper "INT64" then .ok (.int64, currentNullable)
    else if Str.contains upper "INT32" then .ok (.int32, currentNullable)
    else if Str.contains upper "UTF8" || Str.contains upper "STRING" then
      .ok (.utf8, currentNullable)
    else if Str.contains upper "FLOAT" || Str.contains upper "DOUBLE" then
      .ok (.float64, currentNullable)
    else .error (.invalidInput ("unsupported cast target: " ++ label))

/-- A column of the schema and its place. -/
def fieldOf (schema : Schema) (name : String) (missing : ParqknifeError) :
    Except ParqknifeError (Nat × Field) :=
  match indexOf schema name with
  | none => .error missing
  | some idx =>
    match schema[idx]? with
    | none => .error missing
    | some field => .ok (idx, field)

def newBatch (rows : List Row) : Except ParqknifeError Batch :=
  (tryNew schema rows).mapError .arrow

inductive BatchTransform where
  | projection (columns : List String)
  | filter (expr : FilterExpr)
  | rename (renames : List (String × String))
  | cast (casts : List (String × String))

def projectColumns (columns : List String) (batch : Batch) : Except ParqknifeError Batch := do
  let picked ← columns.mapM fun name => fieldOf batch.schema name (columnNotFound name)
  newBatch (picked.map (·.2)) (batch.rows.map fun row => picked.map fun entry => cellAt entry.1 row)

/-- Rename one column. The names are looked up in the schema of the batch, not in the renamed
one. -/
def renameColumn (fields : Schema) (entry : String × String) : Except ParqknifeError Schema := do
  if entry.1 = entry.2 then throw (.invalidInput "rename from and to must differ")
  let (idx, field) ← fieldOf schema entry.1 (.invalidInput ("column not found: " ++ entry.1))
  if schema.any fun field => field.name = entry.2 then
    throw (.invalidInput ("target column already exists: " ++ entry.2))
  return fields.set idx { field with name := entry.2 }

def renameColumns (renames : List (String × String)) (batch : Batch) :
    Except ParqknifeError Batch := do
  let fields ← renames.foldlM (renameColumn batch.schema) batch.schema
  newBatch fields batch.rows

/-- Apply a function to one cell of each row. -/
def mapColumn (idx : Nat) (convert : Cell → Cell) (rows : List Row) : List Row :=
  rows.map fun row => row.modify idx convert

/-- `cast` of one column, unless it has the type already. -/
def castArray (source target : DataType) : Except ParqknifeError (Cell → Cell) :=
  if source = target then .ok id
  else (kernel.cast source target).mapError fun error => .invalidInput ("cast failed: " ++ error)

def castColumn (table : Schema × List Row) (entry : String × String) :
    Except ParqknifeError (Schema × List Row) := do
  let (idx, field) ← fieldOf schema entry.1 (.invalidInput ("column not found: " ++ entry.1))
  let (target, nullable) ← parseCastTarget kernel field.dataType field.nullable entry.2
  let convert ← castArray kernel field.dataType target
  return (table.1.set idx ⟨entry.1, target, nullable⟩, mapColumn idx convert table.2)

def castColumns (casts : List (String × String)) (batch : Batch) : Except ParqknifeError Batch := do
  let table ← casts.foldlM (castColumn kernel batch.schema) (batch.schema, batch.rows)
  newBatch table.1 table.2

def BatchTransform.transform (kernel : Kernel) (batch : Batch) :
    BatchTransform → Except ParqknifeError Batch
  | .projection columns => projectColumns columns batch
  | .filter expr => do
      let mask ← evaluateFilter batch expr
      return filterRecordBatch batch mask
  | .rename renames => renameColumns renames batch
  | .cast casts => castColumns kernel casts batch

/-! ## Pipelines -/

abbrev Pipeline : Type := List BatchTransform

def Pipeline.execute (pipeline : Pipeline) (batch : Batch) : Except ParqknifeError Batch :=
  pipeline.foldlM (BatchTransform.transform kernel) batch

/-- Data operations of a rewrite. -/
structure RewriteOps where
  projection : Option (List String)
  filter : Option String
  rename : Option (List (String × String))
  cast : Option (List (String × String))
  deriving DecidableEq

/-- `parse_filter`. -/
def parseFilter (expr : String) : Except ParqknifeError FilterExpr :=
  (kernel.parseFilter expr).mapError fun error => .filterError ("Parse error: " ++ error)

def pipelineFromRewriteOps (ops : RewriteOps) : Except ParqknifeError Pipeline := do
  let filter ← ops.filter.mapM (parseFilter kernel)
  return (ops.projection.map BatchTransform.projection).toList ++
    (filter.map BatchTransform.filter).toList ++
    (ops.rename.map BatchTransform.rename).toList ++ (ops.cast.map BatchTransform.cast).toList

/-!
# Hive partitioning

`partition_record_batches` of `partition.rs`: rows are grouped by a key text, which is cut into
values again to form the path of a sub-directory. An open writer keeps its batches, and its file
is written when it is closed. The order in which hash maps are iterated is a parameter.
-/

open Effects

variable {File : Type}

/-! ## Keys -/

/-- Hive-style NULL partition token. -/
def HIVE_DEFAULT_PARTITION : String := "__HIVE_DEFAULT_PARTITION__"

def ESCAPE_PREFIX : String := "__PQ_ESC__"

/-- Encode a partition column value for filesystem paths. -/
def encodePartitionValue : Option String → String
  | none => HIVE_DEFAULT_PARTITION
  | some text =>
    if text = HIVE_DEFAULT_PARTITION then ESCAPE_PREFIX ++ HIVE_DEFAULT_PARTITION
    else if text.toList.contains '/' || text.toList.contains '\\' ||
        text.toList.contains '\x00' then
      ESCAPE_PREFIX ++ Str.replaceWith (Str.replaceWith (Str.replaceWith text '\\' "\\\\")
        '/' "\\/") '\x00' "\\0"
    else text

/-- Text between the values of a key. -/
def KEY_SEPARATOR : Char := '\x1f'

def partitionDir (base : String) (columns : List String) (key : String) : String :=
  (columns.zip (Str.split key KEY_SEPARATOR)).foldl
    (fun path entry => Path.join path (entry.1 ++ "=" ++ entry.2)) base

/-- Value of a cell, which has to be a text unless it is NULL. -/
def arrayValueAt (field : Field) : Cell → Except ParqknifeError (Option String)
  | none => .ok none
  | some (.utf8 text) => .ok (some text)
  | some _ =>
    .error (.invalidInput ("unsupported partition column type: " ++ field.dataType.debug))

/-- Values of the partition columns in a row. -/
def partitionValues (columns : List (Nat × Field)) (row : Row) :
    Except ParqknifeError (List (Option String)) :=
  columns.mapM fun entry => arrayValueAt entry.2 (cellAt entry.1 row)

def keyOf (values : List (Option String)) : String :=
  String.intercalate (String.singleton KEY_SEPARATOR) (values.map encodePartitionValue)

def partitionColumns (schema : Schema) (columns : List String) :
    Except ParqknifeError (List (Nat × Field)) :=
  columns.mapM fun name =>
    fieldOf schema name (.invalidInput ("missing partition column " ++ name))

/-- Rows with one key. -/
def rowsWithKey (batch : Batch) (keys : List String) (key : String) : Batch :=
  filterRecordBatch batch (keys.map fun other => some (other == key))

/-- Rows of a batch, by key. -/
def partitionKeys (batch : Batch) (columns : List String) :
    Except ParqknifeError (List (String × Batch)) := do
  if batch.rows.isEmpty then return []
  let arrays ← partitionColumns batch.schema columns
  let values ← batch.rows.mapM (partitionValues arrays)
  let keys := values.map keyOf
  return keys.dedup.map fun key => (key, rowsWithKey batch keys key)

/-! ## Writers -/

/-- A writer and the batches that it was given. -/
structure OpenPartition where
  path : String
  batches : List Batch

structure PartitionState where
  writers : AList fun _ : String => OpenPartition
  lru : List String
  outputs : List String
  partCounters : String → Nat

def PartitionState.start : PartitionState := ⟨∅, [], [], fun _ => 0⟩

/-- Order in which hash maps are iterated: the groups of each batch, and the writers that
are open in the end. -/
structure HashOrder where
  groups : Nat → List (String × Batch) → List (String × Batch)
  groups_perm : ∀ index list, (groups index list).Perm list
  writers : List (Sigma fun _ : String => OpenPartition) →
    List (Sigma fun _ : String => OpenPartition)
  writers_perm : ∀ list, (writers list).Perm list

/-- Hash maps that are iterated in the order of insertion. -/
def HashOrder.insertion : HashOrder where
  groups := fun _ list => list
  groups_perm := fun _ list => List.Perm.refl list
  writers := id
  writers_perm := List.Perm.refl

structure PartitionSettings where
  outputDir : String
  partitionBy : List String
  maxOpenPartitions : Nat
  compression : Option String
  rowGroupSizeMb : Option Nat

def partName (idx : Nat) : String := "part-" ++ Str.zeroPadded 5 idx ++ ".parquet"

def knownCodecs : List String :=
  ["uncompressed", "snappy", "gzip", "lzo", "brotli", "lz4", "zstd", "lz4_raw"]

def compressionFromStr (kernel : Kernel) (text : String) : Except ParqknifeError String :=
  if kernel.lowercase text ∈ knownCodecs then .ok (kernel.lowercase text)
  else .error (.invalidInput ("Unknown compression: " ++ text))

section

variable (tools : Toolkit File Schema Batch) (settings : PartitionSettings)
  (options : WriterOptions) (schema : Schema)

def closePartition (writer : OpenPartition) : TransformM File Unit := do
  let contents ← parquetResult (tools.writeBatches options schema writer.batches)
  transformCall (.write writer.path contents)

/-- Close the writer that was not used for the longest time. -/
def evictOldest (state : PartitionState) : TransformM File PartitionState :=
  match state.lru with
  | [] => return state
  | oldest :: lru =>
    match state.writers.lookup oldest with
    | none => return { state with lru := lru }
    | some writer => do
        closePartition tools options schema writer
        return { state with writers := state.writers.erase oldest, lru := lru }

/-- Close a writer when too many of them are open. -/
def makeRoom (state : PartitionState) : TransformM File PartitionState :=
  if settings.maxOpenPartitions ≤ state.writers.entries.length then
    evictOldest tools options schema state
  else return state

/-- Start the next part of a partition. -/
def openPartition (key : String) (state : PartitionState) :
    TransformM File (OpenPartition × PartitionState) := do
  let state ← makeRoom tools settings options schema state
  let dir := partitionDir settings.outputDir settings.partitionBy key
  transformCall (.createDirAll dir)
  let path := Path.join dir (partName (state.partCounters key))
  transformCall (.write path tools.created)
  return (⟨path, []⟩, { state with
    outputs := state.outputs ++ [path]
    lru := state.lru ++ [key]
    partCounters := Function.update state.partCounters key (state.partCounters key + 1) })

/-- Move a key to the end of the queue. -/
def touch (key : String) (lru : List String) : List String :=
  if key ∈ lru then lru.erase key ++ [key] else lru

/-- Writer of a key, which is opened when there is none. -/
def writerFor (key : String) (state : PartitionState) :
    TransformM File (OpenPartition × PartitionState) :=
  match state.writers.lookup key with
  | some writer => return (writer, { state with lru := touch key state.lru })
  | none => openPartition tools settings options schema key state

def writeGroup (state : PartitionState) (group : String × Batch) :
    TransformM File PartitionState := do
  let (writer, state) ← writerFor tools settings options schema group.1 state
  return { state with
    writers := state.writers.insert group.1 { writer with batches := writer.batches ++ [group.2] } }

def writeGroups : List (String × Batch) → PartitionState → TransformM File PartitionState
  | [], state => return state
  | group :: rest, state => do
      let state ← writeGroup tools settings options schema state group
      writeGroups rest state

def transformResult {α : Type} : Except ParqknifeError α → TransformM File α
  | .ok value => return value
  | .error error => throw error

/-- Batches from the one at `index` on. -/
def partitionBatches (order : HashOrder) :
    Nat → List Batch → PartitionState → TransformM File PartitionState
  | _, [], state => return state
  | index, batch :: rest, state => do
      let groups ← transformResult (partitionKeys batch settings.partitionBy)
      let state ← writeGroups tools settings options schema (order.groups index groups) state
      partitionBatches order (index + 1) rest state

def closeAll : List (Sigma fun _ : String => OpenPartition) → TransformM File Unit
  | [] => return ()
  | entry :: rest => do
      closePartition tools options schema entry.2
      closeAll rest

end

/-- Write preloaded batches into a hive-style partition tree. -/
def partitionRecordBatches (tools : Toolkit File Schema Batch) (kernel : Kernel)
    (order : HashOrder) (settings : PartitionSettings) (batches : List Batch) :
    TransformM File (List String) :=
  if settings.partitionBy.isEmpty then throw (.invalidInput "partition_by required")
  else if settings.maxOpenPartitions = 0 then
    throw (.invalidInput "max_open_partitions must be > 0")
  else
    match batches with
    | [] => return []
    | first :: _ => do
        transformCall (.createDirAll settings.outputDir)
        let codec ← transformResult (settings.compression.mapM (compressionFromStr kernel))
        let options : WriterOptions := ⟨codec, settings.rowGroupSizeMb, false⟩
        let state ← partitionBatches tools settings options first.schema order 0 batches .start
        closeAll tools options first.schema (order.writers state.writers.entries)
        return state.outputs

/-!
# The values that casts keep

When a cast that succeeds leaves a value in every cell that held one.
-/

open Rust.Result List

variable (kernel : Kernel) (schema : Schema)

/-- Batches that `rewrite_parquet_with_cast` writes for those of a file. -/
def castBatches (column targetType : String) (batches : List Batch) :
    Except ParqknifeError (List Batch) := do
  let (idx, current) ← fieldOf schema column (.invalidInput ("column not found: " ++ column))
  let (target, nullable) ← parseCastTarget kernel current.dataType current.nullable targetType
  batches.mapM fun batch => do
    let convert ← castArray kernel current.dataType target
    (tryNew (schema.set idx ⟨column, target, nullable⟩)
      (mapColumn idx convert batch.rows)).mapError .invalidInput

variable (fits : DataType → DataType → Scalar → Prop)

/-- The cast kernel with its default options: a value that the target type does not have becomes
NULL. -/
structure NullsMisfits : Prop where
  isSome {source target convert} : kernel.cast source target = .ok convert →
    ∀ cell, (convert cell).isSome ↔ ∃ value, cell = some value ∧ fits source target value

/-- Column of a cast, and the types from which and to which it converts. -/
def castSite (entry : String × String) : Except ParqknifeError (Nat × DataType × DataType) := do
  let (idx, field) ← fieldOf schema entry.1 (.invalidInput ("column not found: " ++ entry.1))
  let (target, _) ← parseCastTarget kernel field.dataType field.nullable entry.2
  return (idx, field.dataType, target)

def cellOf (rows : List Row) (row idx : Nat) : Cell := rows[row]?.bind (cellAt idx)

/-- A cell that holds a value in the first rows holds one in the second. -/
def KeepsValues (before after : List Row) : Prop :=
  ∀ row idx, (cellOf before row idx).isSome → (cellOf after row idx).isSome

/-- The value of a column is one of the type that a cast of the column asks for. -/
def FitsCasts (casts : List (String × String)) (idx : Nat) (value : Scalar) : Prop :=
  ∀ entry ∈ casts, ∀ source target, castSite kernel schema entry = .ok (idx, source, target) →
    source = target ∨ fits source target value

variable {kernel schema fits}

lemma cellOf_mapColumn {convert : Cell → Cell} (null : convert none = none) {rows : List Row}
    {idx row place : Nat} : cellOf (mapColumn idx convert rows) row place =
      if idx = place then convert (cellOf rows row place) else cellOf rows row place := by
  simp only [cellOf, mapColumn, getElem?_map]
  cases rows[row]? with
  | none => simp [null]
  | some cells =>
    simp only [Option.map_some, Option.bind_some, cellAt, getElem?_modify]
    split <;> cases cells[place]? <;> simp [null]

lemma tryNew_eq_ok {rows : List Row} {result : Batch} (makes : tryNew schema rows = .ok result) :
    result = ⟨schema, rows⟩ := by
  rw [tryNew] at makes
  grind

lemma indexOf_of_castSite {entry : String × String} {idx : Nat} {types : DataType × DataType}
    (site : castSite kernel schema entry = .ok (idx, types)) :
    indexOf schema entry.1 = some idx := by
  obtain ⟨⟨_, _⟩, finds, rest⟩ := bind_eq_ok.mp site
  obtain ⟨_, -, made⟩ := bind_eq_ok.mp rest
  cases pure_eq_ok.mp made
  rw [fieldOf] at finds
  grind

section

variable (misfits : NullsMisfits kernel fits)
include misfits

lemma castColumn_eq_ok {table after : Schema × List Row} {entry : String × String}
    (casts : castColumn kernel schema table entry = .ok after) :
    ∃ idx source target convert, castSite kernel schema entry = .ok (idx, source, target) ∧
      (∀ cell, (convert cell).isSome ↔
        ∃ value, cell = some value ∧ (source = target ∨ fits source target value)) ∧
      after.2 = mapColumn idx convert table.2 := by
  obtain ⟨⟨idx, field⟩, finds, rest⟩ := bind_eq_ok.mp casts
  obtain ⟨⟨target, _⟩, parses, rest⟩ := bind_eq_ok.mp rest
  obtain ⟨convert, converts, made⟩ := bind_eq_ok.mp rest
  cases pure_eq_ok.mp made
  refine ⟨idx, field.dataType, target, convert, bind_eq_ok.mpr ⟨_, finds, bind_eq_ok.mpr
    ⟨_, parses, rfl⟩⟩, fun cell => ?_, rfl⟩
  rw [castArray] at converts
  split at converts
  · cases converts
    simp_all [Option.isSome_iff_exists]
  · simp_all [misfits.isSome (mapError_eq_ok.mp converts)]

variable {casts : List (String × String)} {start table : Schema × List Row}
  (keys : (casts.map Prod.fst).Nodup)
  (folds : casts.foldlM (castColumn kernel schema) start = .ok table)
include keys folds

/-- A cell holds a value after the casts if it held one that fits. -/
lemma castColumns_eq_ok (row idx : Nat) : (cellOf table.2 row idx).isSome ↔ ∃ value,
    cellOf start.2 row idx = some value ∧ FitsCasts kernel schema fits casts idx value := by
  simp only [FitsCasts]
  induction casts generalizing start with
  | nil =>
    cases pure_eq_ok.mp folds
    simp [Option.isSome_iff_exists]
  | cons _ rest ih =>
    obtain ⟨_, here, later⟩ := bind_eq_ok.mp folds
    obtain ⟨_, keys⟩ := nodup_cons.mp keys
    obtain ⟨place, source, target, _, site, isSome, rows⟩ := castColumn_eq_ok misfits here
    rw [ih keys later, rows, cellOf_mapColumn (by simpa using isSome none)]
    by_cases here : place = idx
    · subst here
      -- no other cast is of this column
      have alone : ∀ other ∈ rest, ∀ source target,
          castSite kernel schema other ≠ .ok (place, source, target) := by
        intro _ mem _ _ again
        have first := findIdx?_eq_some_iff_getElem.mp (indexOf_of_castSite site)
        have second := findIdx?_eq_some_iff_getElem.mp (indexOf_of_castSite again)
        have := mem_map_of_mem (f := Prod.fst) mem
        grind
      simp_all [Option.isSome_iff_exists]
    · simp [site, here]

lemma keepsValues_iff : KeepsValues start.2 table.2 ↔ ∀ row idx value,
    cellOf start.2 row idx = some value → FitsCasts kernel schema fits casts idx value := by
  refine forall₂_congr fun row idx => ?_
  rw [castColumns_eq_ok misfits keys folds]
  cases cellOf start.2 row idx <;> simp

omit keys folds

/-- Casts that succeed keep every value if and only if every value of a column that is cast is one
of the type that it is cast to. -/
theorem casts_keep_values_iff : (∀ {casts batch result}, (casts.map Prod.fst).Nodup →
      castColumns kernel casts batch = .ok result →
      (KeepsValues batch.rows result.rows ↔
        ∀ row idx value, cellOf batch.rows row idx = some value →
          FitsCasts kernel batch.schema fits casts idx value)) ∧
    ∀ {schema column targetType batches results},
      castBatches kernel schema column targetType batches = .ok results →
      (Forall₂ (fun batch result => KeepsValues batch.rows result.rows) batches results ↔
        ∀ batch ∈ batches, ∀ row idx value, cellOf batch.rows row idx = some value →
          FitsCasts kernel schema fits [(column, targetType)] idx value) := by
  constructor
  · intro _ batch _ keys converts
    obtain ⟨_, folds, makes⟩ := bind_eq_ok.mp converts
    cases tryNew_eq_ok (mapError_eq_ok.mp makes)
    exact keepsValues_iff misfits keys folds
  · intro schema column targetType _ _ converts
    obtain ⟨⟨idx, _⟩, finds, rest⟩ := bind_eq_ok.mp converts
    obtain ⟨⟨target, nullable⟩, parses, maps⟩ := bind_eq_ok.mp rest
    have pairs := mapM_eq_ok.mp maps
    clear converts rest maps
    induction pairs with
    | nil => simp
    | @cons batch _ _ _ here _ ih =>
      obtain ⟨convert, converts, makes⟩ := bind_eq_ok.mp here
      cases tryNew_eq_ok (mapError_eq_ok.mp makes)
      have cast : [(column, targetType)].foldlM (castColumn kernel schema) (schema, batch.rows) =
          .ok (schema.set idx ⟨column, target, nullable⟩, mapColumn idx convert batch.rows) := by
        simp [castColumn, finds, parses, converts, bind, Except.bind, pure, Except.pure]
      have kept := keepsValues_iff misfits (by simp) cast
      simp [ih, kept]

end

namespace Reference

def inInt32 : Scalar → Bool
  | .int number => -2 ^ 31 ≤ number && number < 2 ^ 31
  | _ => true

/-- A kernel that converts to 32 bits. -/
def narrowing : Kernel where
  lowercase := id
  uppercase := id
  parseFilter _ := .error ""
  cast _ _ := .ok (Option.filter inInt32)

lemma narrowing_nulls : NullsMisfits narrowing fun _ _ value => inInt32 value where
  isSome made cell := by
    cases made
    cases cell <;> simp

def long : Batch := ⟨[⟨"a", .int64, true⟩], [[some (.int (2 ^ 31))]]⟩

def nulled : Batch := ⟨[⟨"a", .int32, true⟩], [[none]]⟩

lemma castColumns_long : castColumns narrowing [("a", "INT32")] long = .ok nulled := by rfl

theorem long_becomes_null : castColumns narrowing [("a", "INT32")] long = .ok nulled ∧
    ¬KeepsValues long.rows nulled.rows :=
  ⟨castColumns_long, fun keeps => absurd (keeps 0 0 rfl) (by decide)⟩

theorem long_kept_iff : KeepsValues long.rows nulled.rows ↔ ∀ row idx value,
    cellOf long.rows row idx = some value →
      FitsCasts narrowing long.schema (fun _ _ value => inInt32 value) [("a", "INT32")] idx value :=
  (casts_keep_values_iff narrowing_nulls).1 (nodup_singleton _) castColumns_long

end Reference

end Parqonaut.Transform
