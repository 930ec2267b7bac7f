import Parqonaut.Rust.Disk
import Parqonaut.Rust.Result
import Parqonaut.Stream.Coercion

/-!
# CSV files

`csv_in.rs` and `writer_csv.rs` of the stream crate: records become batches whose column types are
inferred batch by batch, and batches are written as lines. The `csv` crate, the text encodings and
the Parquet library are parameters. Records end at the first error, since no caller goes on after
one.
-/

namespace Parqonaut.Resumable

open Arrow Columnar Coercion Rust

abbrev Bytes : Type := List UInt8

inductive MawError where
  | io (message : String)
  | csv (message : String)
  | parquet (message : String)
  | arrow (message : String)
  | schema (message : String)
  | invalidInput (message : String)
  | config (message : String)
  | state (message : String)
  | json (message : String)
  | panicked

/-- Errors of an aligner. -/
def MawError.ofCoercion : Coercion.MawError → MawError
  | .arrow message => .arrow message
  | .schema message => .schema message
  | .panicked => .panicked

inductive Encoding where
  | utf8
  | windows1252
  deriving DecidableEq

inductive Compression where
  | none
  | snappy
  | gzip
  | zstd

structure ParquetWriterConfig where
  compression : Compression
  zstdLevel : Nat

/-- Libraries that read and write files. -/
structure Library where
  /-- The records of a CSV file, for a delimiter and a quote. -/
  csvRecords : UInt8 → UInt8 → Bytes → List (Except String (List Bytes))
  /-- A header field as a text. -/
  headerText : Bytes → Except String String
  decode : Encoding → Bytes → String
  /-- A record as a line of a CSV file. -/
  csvLine : List String → Bytes
  fromUtf8Lossy : Bytes → Bytes
  /-- The schema of a Parquet file and its batches of at most some number of rows. -/
  readParquet : Nat → Bytes → Except String (Schema × List (Except String Batch))
  /-- A Parquet file that has only been created. -/
  created : Bytes
  writeParquet : ParquetWriterConfig → Schema → List Batch → Except String Bytes
  numbers : NumberFormat

/-! ## Reading -/

structure CsvConfig where
  delimiter : Option UInt8
  quote : Option UInt8
  hasHeaders : Bool
  encoding : String
  naValues : List String
  batchSize : Nat

structure CsvReader where
  records : List (Except String (List Bytes))
  headers : List String
  batchSize : Nat
  naValues : List String
  encoding : Encoding
  pendingRecord : Option (List Bytes)

/-- Delimiter of a reader that is not given one. -/
def DEFAULT_DELIMITER : UInt8 := 44

def DEFAULT_QUOTE : UInt8 := 34

/-- Encoding with a label. No letter beyond ASCII has one of the letters of the labels as
its lower case. -/
def encodingOf (label : String) : Encoding :=
  if Str.toAsciiLowercase label ∈ ["utf8", "utf-8"] then .utf8
  else if Str.toAsciiLowercase label ∈ ["latin1", "iso-8859-1"] then .windows1252
  else .utf8

section

variable (lib : Library)

/-- Name that a column without a header gets. -/
def columnName (idx : Nat) : String := "col_" ++ toString (idx + 1)

/-- Header names, the first record if it is none, and the records that follow. -/
def readHeaders (hasHeaders : Bool) (records : List (Except String (List Bytes))) :
    Except MawError (List String × Option (List Bytes) × List (Except String (List Bytes))) :=
  match hasHeaders, records with
  | _, .error message :: _ => .error (.csv message)
  | true, [] => .ok ([], none, [])
  | true, .ok first :: rest =>
    match first.mapM lib.headerText with
    | .error message => .error (.csv message)
    | .ok headers => .ok (headers, none, rest)
  | false, [] => .ok ([], some [], [])
  | false, .ok first :: rest =>
    .ok ((List.range first.length).map columnName, some first, rest)

def CsvReader.new (config : CsvConfig) (contents : Bytes) : Except MawError CsvReader := do
  let records := lib.csvRecords (config.delimiter.getD DEFAULT_DELIMITER)
    (config.quote.getD DEFAULT_QUOTE) contents
  let (headers, pendingRecord, rest) ← readHeaders lib config.hasHeaders records
  return ⟨rest, headers, config.batchSize, config.naValues, encodingOf config.encoding,
    pendingRecord⟩

/-- At most `size` records, and the rest. -/
def takeRecords : Nat → List (Except String (List Bytes)) →
    Except MawError (List (List Bytes) × List (Except String (List Bytes)))
  | 0, rest => .ok ([], rest)
  | _ + 1, [] => .ok ([], [])
  | _ + 1, .error message :: _ => .error (.csv message)
  | size + 1, .ok record :: rest => do
      let (others, left) ← takeRecords size rest
      return (record :: others, left)

/-- A field without a byte order mark, as a text. -/
def CsvReader.decodeField (reader : CsvReader) (field : Bytes) : String :=
  lib.decode reader.encoding (if [0xEF, 0xBB, 0xBF].isPrefixOf field then field.drop 3 else field)

/-- Value of a column in a record. -/
def CsvReader.valueAt (reader : CsvReader) (idx : Nat) (record : List Bytes) : Option String :=
  match record[idx]? with
  | none => none
  | some field =>
    let text := reader.decodeField lib field
    if reader.naValues.contains text then none else some text

inductive TextKind where
  | int
  | float
  | bool
  | string
  deriving DecidableEq

def textKind (text : String) : TextKind :=
  if (lib.numbers.parseI64 text).isSome then .int
  else if (lib.numbers.parseF64 text).isSome then .float
  else if (parseBool text).isSome then .bool
  else .string

/-- A column whose values are read as values of a type. -/
def parsedArray (dataType : DataType) (parse : String → Option Scalar)
    (values : List (Option String)) : ArrowArray :=
  ⟨dataType, values.map fun value => value.bind parse⟩

def createColumnArray (values : List (Option String)) : ArrowArray :=
  let kinds := values.filterMap fun value => value.map (textKind lib)
  if .string ∈ kinds || kinds.isEmpty then
    parsedArray .utf8 (fun text => some (.utf8 text)) values
  else if .float ∈ kinds then
    parsedArray .float64 (fun text => (lib.numbers.parseF64 text).map .float) values
  else if .int ∈ kinds then
    parsedArray .int64 (fun text => (lib.numbers.parseI64 text).map .int) values
  else parsedArray .boolean (fun text => (parseBool text).map .boolean) values

def CsvReader.recordsToBatch (reader : CsvReader) (records : List (List Bytes)) :
    Except MawError Batch :=
  let columns := (List.range reader.headers.length).map fun idx =>
    createColumnArray lib (records.map (reader.valueAt lib idx))
  let fields := (reader.headers.zip columns).map fun entry => ⟨entry.1, entry.2.dataType, true⟩
  (tryNewArrays fields columns).mapError .arrow

/-- `read_batch`, with the reader that is left. -/
def CsvReader.readBatch (reader : CsvReader) : Except MawError (Option (Batch × CsvReader)) := do
  let (taken, rest) ← takeRecords reader.batchSize reader.records
  let records := reader.pendingRecord.toList ++ taken
  if records.isEmpty then return none
  let batch ← reader.recordsToBatch lib records
  return some (batch, { reader with records := rest, pendingRecord := none })

/-- What the calls of `read_batch` yield, up to the end or the first error. Every batch but the
first takes a record, so their number is bounded. -/
def CsvReader.readBatches : Nat → CsvReader → List (Except MawError Batch)
  | 0, _ => []
  | fuel + 1, reader =>
    match reader.readBatch lib with
    | .error error => [.error error]
    | .ok none => []
    | .ok (some (batch, next)) => .ok batch :: CsvReader.readBatches fuel next

end

/-! ## Writing -/

variable (lib : Library)

/-- `array_value_to_string`. NULLs are empty, and types without a case are unknown. -/
def arrayValueToString (dataType : DataType) (cell : Cell) : Except MawError String :=
  if isNullAt dataType cell then .ok ""
  else
    match dataType, cell with
    | .utf8, some (.utf8 text) => .ok text
    | .largeUtf8, _ => .error .panicked
    | .int64, some (.int value) => .ok (toString value)
    | .float64, some (.float bits) => .ok (lib.numbers.displayF64 bits)
    | .boolean, some (.boolean value) => .ok (toString value)
    | _, _ => .ok "unknown"

def csvRow (schema : Schema) (row : Row) : Except MawError Bytes := do
  let texts ← (schema.zip row).mapM fun entry => arrayValueToString lib entry.1.dataType entry.2
  return lib.csvLine texts

/-- Text of a batch, with the line of headers if it is the first one. -/
def csvText (headersWritten : Bool) (batch : Batch) : Except MawError Bytes := do
  let rows ← batch.rows.mapM (csvRow lib batch.schema)
  let headers := if headersWritten then [] else lib.csvLine (batch.schema.map (·.name))
  return headers ++ rows.flatten

/-!
# Resumable conversions

`Pipeline::execute_resumable` of `pipeline.rs` and the checkpoints of `state.rs`. Every input file
is converted to a staged part, after which the checkpoint is saved, and at the end the parts are
joined.

The input files do not change, so their sizes and times are parameters. A file keeps the
checkpoint itself in place of its JSON text. What nothing reads of a checkpoint is left out.
-/

open Effects

/-! ## Options -/

inductive OutputFormat where
  | csv
  | parquet

def OutputFormat.display : OutputFormat → String
  | .csv => "csv"
  | .parquet => "parquet"

/-- Options that the conversion looks at. -/
structure Cli where
  delimiter : Option Char
  quote : Option Char
  noHeaders : Bool
  encoding : String
  na : String
  columns : Option String
  exclude : Option String
  stringifyConflicts : Bool
  schemaConflicts : String
  inferRows : Nat
  compression : Compression
  zstdLevel : Nat
  state : Option String
  resume : Bool

def Cli.conflictPolicy (cli : Cli) : SchemaConflictPolicy :=
  if cli.stringifyConflicts then .stringify
  else if cli.schemaConflicts = "widen" then .widen
  else if cli.schemaConflicts = "stringify" then .stringify
  else .strict

/-- Name of a policy in lower case. -/
def policyLabel : SchemaConflictPolicy → String
  | .strict => "strict"
  | .widen => "widen"
  | .stringify => "stringify"

def compressionLabel : Compression → String
  | .none => "none"
  | .snappy => "snappy"
  | .gzip => "gzip"
  | .zstd => "zstd"

def Cli.batchSize (cli : Cli) : Nat := max cli.inferRows 1

/-- `c as u8`. -/
def asU8 (c : Char) : UInt8 := UInt8.ofNat c.toNat

def Cli.csvConfig (cli : Cli) : CsvConfig where
  delimiter := cli.delimiter.map asU8
  quote := cli.quote.map asU8
  hasHeaders := !cli.noHeaders
  encoding := cli.encoding
  naValues := (Str.split cli.na ',').map Str.trim
  batchSize := cli.batchSize

def Cli.writerConfig (cli : Cli) : ParquetWriterConfig := ⟨cli.compression, cli.zstdLevel⟩

/-- Names of a list of columns. -/
def columnNames (list : String) : List String :=
  ((Str.split list ',').map Str.trim).filter (· ≠ "")

def Cli.aligner (cli : Cli) (unified : UnifiedSchema) : BatchAligner :=
  Coercion.aligner unified cli.conflictPolicy (cli.columns.map columnNames)
    (cli.exclude.map columnNames)

/-! ## Checkpoints -/

inductive FileFormat where
  | csv
  | parquet

structure InputFile where
  path : String
  format : FileFormat

/-- Size of a file, and the time of its last change. -/
structure Metadata where
  len : Nat
  modified : Nat

def CHECKPOINT_SCHEMA_VERSION : Nat := 1

structure StreamExecutionIdentity where
  schemaVersion : Nat
  inputsFingerprint : String
  outputPath : String
  outputFormat : String
  schemaPolicy : String
  compression : String
  batchSize : Nat
  deriving DecidableEq

structure FileState where
  path : String
  format : FileFormat
  processed : Bool
  sourceSize : Nat
  sourceModified : Nat

structure ProcessingState where
  schemaVersion : Nat
  identity : StreamExecutionIdentity
  files : AList fun _ : String => FileState
  totalFiles : Nat
  processedFiles : Nat
  committed : Bool

namespace ProcessingState

def new (identity : StreamExecutionIdentity) : ProcessingState :=
  ⟨CHECKPOINT_SCHEMA_VERSION, identity, ∅, 0, 0, false⟩

def addFile (state : ProcessingState) (file : InputFile) (found : Metadata) : ProcessingState :=
  { state with
    files := state.files.insert file.path ⟨file.path, file.format, false, found.len, found.modified⟩
    totalFiles := state.totalFiles + 1 }

def markFileProcessed (state : ProcessingState) (path : String) : ProcessingState :=
  match state.files.lookup path with
  | none => state
  | some file =>
    { state with
      files := state.files.insert path { file with processed := true }
      processedFiles := state.processedFiles + 1 }

def isFileProcessed (state : ProcessingState) (path : String) : Bool :=
  ((state.files.lookup path).map (·.processed)).getD false

def isComplete (state : ProcessingState) : Bool :=
  state.processedFiles = state.totalFiles && 0 < state.totalFiles

end ProcessingState

/-- Contents of a file: a checkpoint, or bytes. -/
inductive StreamFile where
  | checkpoint (state : ProcessingState)
  | data (bytes : Bytes)

/-- What the conversion finds around it. -/
structure StreamEnv where
  lib : Library
  metadata : String → Except IoError Metadata
  /-- The digest of paths with the sizes and times of their files. -/
  digest : List (String × Metadata) → String
  /-- The text of a checkpoint. -/
  checkpointText : ProcessingState → Bytes
  parseCheckpoint : Bytes → Except String ProcessingState
  /-- `PARQONAUT_STREAM_INTERRUPT_AFTER`. -/
  interruptAfter : Option Nat

abbrev StreamM : Type → Type := Fallible (FsRequest StreamFile) FsRequest.Answer MawError

def call (request : FsRequest StreamFile) : StreamM request.Result := do
  match ← Fallible.request request with
  | .ok result => return result
  | .error error => throw (.io error.display)

def result {α : Type} : Except MawError α → StreamM α
  | .ok value => return value
  | .error error => throw error

variable (env : StreamEnv) (cli : Cli) (inputs : List InputFile) (unified : UnifiedSchema)
  (statePath staging outputPath : String) (format : OutputFormat)

def metadataOf (path : String) : Except MawError Metadata :=
  (env.metadata path).mapError fun error => .io error.display

def fingerprintInputs (paths : List String) : Except MawError String := do
  let sorted := paths.insertionSort (· ≤ ·)
  let entries ← sorted.mapM fun path => (metadataOf env path).map fun found => (path, found)
  return env.digest entries

/-- One source of `verify_sources_unchanged`. -/
def verifySource (file : FileState) : Except MawError Unit :=
  match env.metadata file.path with
  | .error error =>
    .error (.state ("STALE CHECKPOINT: source missing " ++ file.path ++ " (" ++
      error.display ++ ")"))
  | .ok found =>
    if found.len ≠ file.sourceSize then
      .error (.state ("STALE CHECKPOINT: source size changed for " ++ file.path))
    else if found.modified ≠ file.sourceModified then
      .error (.state ("STALE CHECKPOINT: source modified for " ++ file.path))
    else .ok ()

def verifySourcesUnchanged (state : ProcessingState) : Except MawError Unit :=
  state.files.entries.forM fun entry => verifySource env entry.2

def identityOf : Except MawError StreamExecutionIdentity := do
  let fingerprint ← fingerprintInputs env (inputs.map (·.path))
  return {
    schemaVersion := CHECKPOINT_SCHEMA_VERSION
    inputsFingerprint := fingerprint
    outputPath := outputPath
    outputFormat := format.display
    schemaPolicy := policyLabel cli.conflictPolicy
    compression := compressionLabel cli.compression
    batchSize := cli.batchSize }

/-- A checkpoint that a resumed run goes on with. -/
def acceptCheckpoint (identity : StreamExecutionIdentity) (loaded : ProcessingState) :
    Except MawError Unit :=
  if loaded.identity ≠ identity then
    .error (.state ("STALE CHECKPOINT: execution identity mismatch " ++
      "(output, policy, or inputs changed)"))
  else verifySourcesUnchanged env loaded

def StreamFile.bytes : StreamFile → Bytes
  | .checkpoint state => env.checkpointText state
  | .data bytes => bytes

def StreamFile.parse : StreamFile → Except MawError ProcessingState
  | .checkpoint state => .ok state
  | .data bytes => (env.parseCheckpoint bytes).mapError .json

def checkVersion (state : ProcessingState) : Except MawError ProcessingState :=
  if state.schemaVersion ≠ CHECKPOINT_SCHEMA_VERSION then
    .error (.state ("unsupported checkpoint schema version " ++ toString state.schemaVersion))
  else .ok state

/-- `StateManager::load_state`, for a file that exists. -/
def loadState : StreamM ProcessingState := do
  let contents ← call (.read statePath)
  let state ← result (contents.parse env)
  result (checkVersion state)

/-- File that a checkpoint is written to first. -/
def tmpPath : String := Path.withExtension statePath "json.tmp"

def createParent (path : String) : StreamM Unit :=
  match Path.parent path with
  | some parent => call (.createDirAll parent)
  | none => return ()

/-- `StateManager::save_state`. -/
def saveState (state : ProcessingState) : StreamM Unit := do
  createParent statePath
  call (.write (tmpPath statePath) (.checkpoint state))
  call (.rename (tmpPath statePath) statePath)

/-! ## Parts -/

/-- Columns of an input file and what the calls of `read_batch` yield. -/
def openInput (file : InputFile) (contents : Bytes) :
    Except MawError (List String × List (Except MawError Batch)) :=
  match file.format with
  | .csv => do
      let reader ← CsvReader.new env.lib cli.csvConfig contents
      return (reader.headers, reader.readBatches env.lib (reader.records.length + 2))
  | .parquet =>
    match env.lib.readParquet cli.batchSize contents with
    | .error message => .error (.parquet message)
    | .ok (schema, batches) =>
      .ok (schema.map (·.name), batches.map fun batch => batch.mapError .parquet)

def alignItem (aligner : BatchAligner) (fields : List String) (item : Except MawError Batch) :
    Except MawError Batch := do
  let batch ← item
  (aligner.alignBatchWithSource env.lib.numbers batch fields).mapError .ofCoercion

/-- Write the batches as text, one after the other. -/
def copyToCsv (aligner : BatchAligner) (fields : List String) (part : String) :
    List (Except MawError Batch) → Bool → Bytes → Nat → StreamM Nat
  | [], _, _, rows => return rows
  | item :: rest, headersWritten, written, rows => do
      let aligned ← result (alignItem env aligner fields item)
      let text ← result (csvText env.lib headersWritten aligned)
      call (.write part (.data (written ++ text)))
      copyToCsv aligner fields part rest true (written ++ text) (rows + aligned.numRows)

/-- The writer is created with the first batch. -/
def ensureWriter (part : String) : Option (List Batch) → StreamM (List Batch)
  | some batches => return batches
  | none => do
      call (.write part (.data env.lib.created))
      return []

/-- Batches of the writer, if there is one, and the number of rows. -/
def copyToParquet (aligner : BatchAligner) (fields : List String) (part : String) :
    List (Except MawError Batch) → Option (List Batch) → Nat → StreamM (Option (List Batch) × Nat)
  | [], writer, rows => return (writer, rows)
  | item :: rest, writer, rows => do
      let aligned ← result (alignItem env aligner fields item)
      let batches ← ensureWriter env part writer
      copyToParquet aligner fields part rest (some (batches ++ [aligned])) (rows + aligned.numRows)

def parquetBytes (config : ParquetWriterConfig) (schema : Schema) (batches : List Batch) :
    Except MawError Bytes :=
  (env.lib.writeParquet config schema batches).mapError .parquet

/-- `ParquetWriter::finish`, if there is a writer. -/
def finishWriter (schema : Schema) (part : String) : Option (List Batch) → StreamM Unit
  | none => return ()
  | some batches => do
      let bytes ← result (parquetBytes env cli.writerConfig schema batches)
      call (.write part (.data bytes))

/-- `process_one_file_blocking`. -/
def processOneFile (file : InputFile) (part : String) : StreamM Nat := do
  let contents ← call (.read file.path)
  let (fields, batches) ← result (openInput env cli file (contents.bytes env))
  match format with
  | .csv =>
    call (.write part (.data []))
    copyToCsv env (cli.aligner unified) fields part batches false [] 0
  | .parquet => do
      let (writer, rows) ← copyToParquet env (cli.aligner unified) fields part batches none 0
      finishWriter env cli unified.schema part writer
      return rows

/-! ## Finalization -/

/-- Files directly in a directory, by their paths. -/
def stagedParts (names : List String) : List String :=
  ((names.filter fun name => !Str.contains name "/").map (Path.join staging)).insertionSort (· ≤ ·)

/-- Bytes after the first line. -/
def bodyOf (contents : Bytes) : Bytes :=
  ((env.lib.fromUtf8Lossy contents).dropWhile (· ≠ 10)).drop 1

/-- Append the parts to the output; all of them but the first lose their first line. -/
def joinCsv : List String → Bool → Bytes → StreamM Unit
  | [], _, _ => return ()
  | part :: rest, first, written => do
      let contents ← call (.read part)
      let text := if first then contents.bytes env else bodyOf env (contents.bytes env)
      call (.write outputPath (.data (written ++ text)))
      joinCsv rest false (written ++ text)

/-- Batches of a part. -/
def partBatches (contents : Bytes) : Except MawError (List Batch) :=
  match env.lib.readParquet 64000 contents with
  | .error message => .error (.parquet message)
  | .ok (_, batches) => batches.mapM fun batch => batch.mapError .parquet

/-- Batches of all parts. -/
def readParts : List String → StreamM (List Batch)
  | [] => return []
  | part :: rest => do
      let contents ← call (.read part)
      let batches ← result (partBatches env (contents.bytes env))
      let others ← readParts rest
      return batches ++ others

def mergeConfig : ParquetWriterConfig := ⟨.none, 3⟩

/-- Join several parts. -/
def joinParts (unified : UnifiedSchema) (parts : List String) : StreamM Unit :=
  match format with
  | .parquet => do
      call (.write outputPath (.data env.lib.created))
      let batches ← readParts env parts
      let bytes ← result (parquetBytes env mergeConfig unified.schema batches)
      call (.write outputPath (.data bytes))
  | .csv => do
      call (.write outputPath (.data []))
      joinCsv env outputPath parts true []

def finalizeStagedParts (unified : UnifiedSchema) : StreamM Unit := do
  let names ← call (.walkFiles staging)
  match stagedParts staging names with
  | [] => throw (.invalidInput "no staged parts to finalize")
  | [part] => call (.rename part outputPath)
  | parts => joinParts env outputPath format unified parts

/-! ## Conversion -/

/-- The output of a checkpoint is complete. -/
def isFinished (loaded : ProcessingState) : StreamM Bool :=
  if loaded.committed && loaded.isComplete then call (.exists outputPath) else return false

/-- Checkpoint that a resumed run goes on with; none if all is done. -/
def resumeState (identity : StreamExecutionIdentity) (outputPath : String) :
    StreamM (Option ProcessingState) := do
  let there ← call (.exists statePath)
  if !there then throw (.invalidInput "resume requested but no checkpoint found")
  let loaded ← loadState env statePath
  result (acceptCheckpoint env identity loaded)
  let finished ← isFinished outputPath loaded
  return if finished then none else some loaded

/-- Files of a fresh run. -/
def addFiles (state : ProcessingState) (inputs : List InputFile) :
    Except MawError ProcessingState :=
  inputs.foldlM (fun state file => (metadataOf env file.path).map (state.addFile file)) state

/-- Remove what an earlier run has left; errors are ignored. -/
def clearStaging : StreamM Unit := do
  let there ← call (.exists staging)
  if there then
    let _ ← Fallible.request (.removeDirAll staging)
    return ()

def freshState (identity : StreamExecutionIdentity) (staging : String) (inputs : List InputFile) :
    StreamM ProcessingState := do
  clearStaging staging
  let fresh ← result (addFiles env (.new identity) inputs)
  saveState statePath fresh
  return fresh

def startState (identity : StreamExecutionIdentity) (outputPath staging : String)
    (inputs : List InputFile) : StreamM (Option ProcessingState) :=
  if cli.resume then resumeState env statePath identity outputPath
  else do
    let fresh ← freshState env statePath identity staging inputs
    return some fresh

def partPath (idx : Nat) (format : OutputFormat) : String :=
  Path.join staging ("part-" ++ Str.zeroPadded 5 idx ++ "." ++ format.display)

/-- Convert one file and save the checkpoint. -/
def convertFile (staging statePath : String) (idx : Nat) (file : InputFile)
    (state : ProcessingState) : StreamM ProcessingState := do
  let _ ← processOneFile env cli unified format file (partPath staging idx format)
  let next := state.markFileProcessed file.path
  saveState statePath next
  if env.interruptAfter = some idx then
    throw (.config "execution interrupted (PARQONAUT_STREAM_INTERRUPT_AFTER)")
  return next

def convertFiles (staging statePath : String) :
    Nat → List InputFile → ProcessingState → StreamM ProcessingState
  | _, [], state => return state
  | idx, file :: rest, state =>
    if state.isFileProcessed file.path then
      convertFiles staging statePath (idx + 1) rest state
    else do
      let next ← convertFile env cli unified format staging statePath idx file state
      convertFiles staging statePath (idx + 1) rest next

/-- Join the parts and save the last checkpoint. -/
def commit (unified : UnifiedSchema) (state : ProcessingState) : StreamM Unit := do
  finalizeStagedParts env staging outputPath format unified
  saveState statePath { state with committed := true }
  clearStaging staging

/-- Part of the conversion that a checkpoint is the start of. -/
def proceed (state : ProcessingState) : StreamM Unit := do
  let staging := Path.withExtension outputPath "staging"
  call (.createDirAll staging)
  let final ← convertFiles env cli unified format staging statePath 0 inputs state
  if final.isComplete then commit env statePath staging outputPath format unified final

def runFrom : Option ProcessingState → StreamM Unit
  | none => return ()
  | some state => proceed env cli inputs unified statePath outputPath format state

def executeResumable : StreamM Unit :=
  match cli.state with
  | none => throw (.invalidInput "state path required")
  | some statePath => do
      let identity ← result (identityOf env cli inputs outputPath format)
      let start ← startState env cli statePath identity outputPath
        (Path.withExtension outputPath "staging") inputs
      runFrom env cli inputs unified statePath outputPath format start

end Parqonaut.Resumable
