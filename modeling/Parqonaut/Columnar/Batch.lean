/-!
# Record batches

The batches that sources and sinks exchange, as far as they look into them: a schema and
rows.
-/

namespace Parqonaut.Columnar

inductive ColumnarError where
  | schema (message : String)
  | validation (message : String)
  | io (message : String)
  | arrow (message : String)
  | cancelled
  | parquet (message : String)
  | other (message : String)

def ColumnarError.display : ColumnarError → String
  | .schema message => "schema error: " ++ message
  | .validation message => "batch validation failed: " ++ message
  | .io message => "I/O error: " ++ message
  | .arrow message => "arrow error: " ++ message
  | .cancelled => "pipeline cancelled"
  | .parquet message => "parquet error: " ++ message
  | .other message => message

structure RecordBatch (Schema Row : Type) where
  schema : Schema
  rows : List Row
  deriving DecidableEq

variable {Schema Row : Type}

def RecordBatch.numRows (batch : RecordBatch Schema Row) : Nat := batch.rows.length

structure WriteSummary where
  rowsWritten : Nat
  bytesWritten : Nat
  filesWritten : Nat

def validateBatch [DecidableEq Schema] (schema : Schema) (batch : RecordBatch Schema Row) :
    Except ColumnarError Unit :=
  if batch.schema ≠ schema then
    .error (.validation "record batch schema does not match expected pipeline schema")
  else .ok ()

/-- What a batch stream yields. -/
abbrev StreamItem (Schema Row : Type) : Type := Except ColumnarError (RecordBatch Schema Row)

end Parqonaut.Columnar

/-!
## Arrow tables

The schemas, cells and record batches of the Arrow library, as far as the transform engine
looks into them. A batch holds its rows, and a column is read across them.
-/

namespace Parqonaut.Arrow

open Columnar

inductive TimeUnit where
  | second
  | millisecond
  | microsecond
  | nanosecond
  deriving DecidableEq

/-- Types of columns; `other` is a type that no code of the repository distinguishes. -/
inductive DataType where
  | null
  | boolean
  | int8
  | int16
  | int32
  | int64
  | float32
  | float64
  | utf8
  | largeUtf8
  | binary
  | largeBinary
  | date32
  | date64
  | timestamp (unit : TimeUnit) (timezone : Option String)
  | other (name : String)
  deriving DecidableEq

def TimeUnit.debug : TimeUnit → String
  | .second => "Second"
  | .millisecond => "Millisecond"
  | .microsecond => "Microsecond"
  | .nanosecond => "Nanosecond"

def DataType.debug : DataType → String
  | .null => "Null"
  | .boolean => "Boolean"
  | .int8 => "Int8"
  | .int16 => "Int16"
  | .int32 => "Int32"
  | .int64 => "Int64"
  | .float32 => "Float32"
  | .float64 => "Float64"
  | .utf8 => "Utf8"
  | .largeUtf8 => "LargeUtf8"
  | .binary => "Binary"
  | .largeBinary => "LargeBinary"
  | .date32 => "Date32"
  | .date64 => "Date64"
  | .timestamp unit none => "Timestamp(" ++ unit.debug ++ ", None)"
  | .timestamp unit (some zone) => "Timestamp(" ++ unit.debug ++ ", Some(\"" ++ zone ++ "\"))"
  | .other name => name

structure Field where
  name : String
  dataType : DataType
  nullable : Bool
  deriving DecidableEq

/-- A value of a cell. A float is given by its bits. -/
inductive Scalar where
  | boolean (value : Bool)
  | int (value : Int)
  | float (bits : UInt64)
  | utf8 (text : String)
  | other (text : String)
  deriving DecidableEq

/-- A cell of a row; `none` is NULL. -/
abbrev Cell : Type := Option Scalar

abbrev Schema : Type := List Field

abbrev Row : Type := List Cell

abbrev Batch : Type := RecordBatch Schema Row

/-- `Schema::index_of`. -/
def indexOf (schema : Schema) (name : String) : Option Nat :=
  schema.findIdx? fun field => field.name = name

def cellAt (idx : Nat) (row : Row) : Cell := (row[idx]?).join

def column (batch : Batch) (idx : Nat) : List Cell := batch.rows.map (cellAt idx)

/-- `RecordBatch::column_by_name`, with the field of the column. -/
def columnByName (batch : Batch) (name : String) : Option (Field × List Cell) := do
  let idx ← indexOf batch.schema name
  let field ← batch.schema[idx]?
  return (field, column batch idx)

/-- First column that must not hold a NULL but does. -/
def nullViolation (schema : Schema) (rows : List Row) : Option Field :=
  (schema.zipIdx.find? fun entry =>
    !entry.1.nullable && rows.any fun row => (cellAt entry.2 row).isNone).map (·.1)

/-- `RecordBatch::try_new`, for columns of the types that the schema gives. -/
def tryNew (schema : Schema) (rows : List Row) : Except String Batch :=
  if schema.isEmpty then
    .error "must either specify a row count or at least one column"
  else
    match nullViolation schema rows with
    | some field =>
      .error ("Column '" ++ field.name ++ "' is declared as non-nullable but contains null values")
    | none => .ok ⟨schema, rows⟩

/-- `filter_record_batch`: a row is kept where the mask says so. -/
def filterRecordBatch (batch : Batch) (mask : List (Option Bool)) : Batch :=
  { batch with
    rows := ((batch.rows.zip mask).filter fun entry => entry.2 = some true).map (·.1) }

/-- Rows of a list of batches. -/
def rowsOf (batches : List Batch) : List Row := batches.flatMap (·.rows)

end Parqonaut.Arrow
