import Parqonaut.Effects.Always
import Parqonaut.Stream.CsvFiles

/-!
# The options of a resumed conversion

A resumed run is accepted when the options that its checkpoint records agree; the rows of the parts
agree when the settings of the CSV reader and the selection of columns do.
-/

namespace Parqonaut.Resumable

open Arrow Columnar Coercion Effects Rust List Option CsvReader BatchAligner

variable {env : StreamEnv} {cli first second : Cli} {unified : UnifiedSchema} {file : InputFile}

/-! ## Rows of a file -/

/-- Batches that a file is converted to. -/
def fileBatches (env : StreamEnv) (cli : Cli) (unified : UnifiedSchema) (file : InputFile)
    (contents : Bytes) : Except MawError (List Batch) := do
  let (fields, batches) ← openInput env cli file contents
  batches.mapM (alignItem env (cli.aligner unified) fields)

/-- Rows that a file is converted to, unless its conversion fails. -/
def fileRows (env : StreamEnv) (cli : Cli) (unified : UnifiedSchema) (file : InputFile)
    (contents : Bytes) : Option (List Row) :=
  (fileBatches env cli unified file contents).toOption.map rowsOf

section

open Fallible

variable {truncated : StreamFile} {disk after : Disk StreamFile}

lemma of_returns_result {α : Type} {outcome : Except MawError α} {value : α}
    (returns : Returns (Disk.service truncated) (result outcome) disk value after) :
    outcome = .ok value ∧ after = disk := by
  cases outcome with
  | ok =>
    cases returns.of_pure
    exact ⟨rfl, rfl⟩
  | error => cases returns.of_throw

lemma of_returns_call {request : FsRequest StreamFile} {value : request.Result}
    (returns : Returns (Disk.service truncated) (call request) disk value after) :
    Disk.serve truncated request disk = (.ok value, after) := by
  obtain ⟨answer, _, answers, rest⟩ := returns_request_bind.mp returns
  cases answer with
  | ok =>
    cases rest.of_pure
    exact Disk.serve_of_answers_ok answers
  | error => cases rest.of_throw

lemma length_rowsOf_cons (batch : Batch) (rest : List Batch) :
    (rowsOf (batch :: rest)).length = batch.numRows + (rowsOf rest).length := by
  rw [rowsOf, flatMap_cons, length_append]
  rfl

variable {aligner : BatchAligner} {fields : List String} {part : String}
  {items : List (Except MawError Batch)} {rows total : Nat}

lemma rows_of_copyToCsv {headersWritten : Bool} {written : Bytes}
    (returns : Returns (Disk.service truncated)
      (copyToCsv env aligner fields part items headersWritten written rows) disk total after) :
    ∃ batches, items.mapM (alignItem env aligner fields) = .ok batches ∧
      total = rows + (rowsOf batches).length := by
  induction items generalizing headersWritten written rows disk with
  | nil =>
    cases returns.of_pure
    exact ⟨[], rfl, rfl⟩
  | cons _ _ ih =>
    obtain ⟨aligned, _, isAligned, returns⟩ := returns.of_bind
    obtain ⟨_, _, _, returns⟩ := returns.of_bind
    obtain ⟨_, _, _, returns⟩ := returns.of_bind
    obtain ⟨batches, others, count⟩ := ih returns
    refine ⟨aligned :: batches, ?_, ?_⟩
    · rw [mapM_cons, (of_returns_result isAligned).1, others]
      rfl
    · rw [count, length_rowsOf_cons, Nat.add_assoc]

lemma rows_of_copyToParquet {writer : Option (List Batch)} {copied : Option (List Batch) × Nat}
    (returns : Returns (Disk.service truncated)
      (copyToParquet env aligner fields part items writer rows) disk copied after) :
    ∃ batches, items.mapM (alignItem env aligner fields) = .ok batches ∧
      copied.2 = rows + (rowsOf batches).length := by
  induction items generalizing writer rows disk with
  | nil =>
    cases returns.of_pure
    exact ⟨[], rfl, rfl⟩
  | cons _ _ ih =>
    obtain ⟨aligned, _, isAligned, returns⟩ := returns.of_bind
    obtain ⟨_, _, _, returns⟩ := returns.of_bind
    obtain ⟨batches, others, count⟩ := ih returns
    refine ⟨aligned :: batches, ?_, ?_⟩
    · rw [mapM_cons, (of_returns_result isAligned).1, others]
      rfl
    · rw [count, length_rowsOf_cons, Nat.add_assoc]

/-- The conversion of a file that succeeds has converted these rows. -/
theorem rows_of_processOneFile {format : OutputFormat} (returns : Returns (Disk.service truncated)
      (processOneFile env cli unified format file part) disk total after) :
    ∃ contents rows, disk.fileAt file.path = some contents ∧
      fileRows env cli unified file (contents.bytes env) = some rows ∧ total = rows.length := by
  obtain ⟨contents, _, reads, continues⟩ := returns.of_bind
  obtain ⟨opened, _, opens, writes⟩ := continues.of_bind
  obtain ⟨found, rfl⟩ := Disk.serve_read_eq_ok.mp (of_returns_call reads)
  have isOpened := (of_returns_result opens).1
  obtain ⟨batches, aligned, count⟩ : ∃ batches,
      opened.2.mapM (alignItem env (cli.aligner unified) opened.1) = .ok batches ∧
        total = (rowsOf batches).length := by
    cases format with
    | csv =>
      obtain ⟨_, _, _, copies⟩ := writes.of_bind
      obtain ⟨batches, aligned, count⟩ := rows_of_copyToCsv copies
      exact ⟨batches, aligned, count.trans (Nat.zero_add _)⟩
    | parquet =>
      obtain ⟨_, _, copies, finishes⟩ := writes.of_bind
      obtain ⟨_, _, _, returned⟩ := finishes.of_bind
      obtain ⟨batches, aligned, count⟩ := rows_of_copyToParquet copies
      obtain ⟨rfl, -⟩ := returns_pure.mp returned
      exact ⟨batches, aligned, count.trans (Nat.zero_add _)⟩
  refine ⟨contents, rowsOf batches, found, ?_, count⟩
  rw [fileRows, fileBatches, isOpened]
  change (opened.2.mapM (alignItem env (cli.aligner unified) opened.1)).toOption.map rowsOf = _
  rw [aligned]
  rfl

/-! ## Recorded options -/

/-- The options that a checkpoint records agree. -/
structure SameRecorded (first second : Cli) : Prop where
  policy : first.conflictPolicy = second.conflictPolicy
  compression : first.compression = second.compression
  batchSize : first.batchSize = second.batchSize

lemma policyLabel_injective : Function.Injective policyLabel := by
  intro left right same
  cases left <;> cases right <;> first | rfl | exact absurd same (by decide)

lemma compressionLabel_injective : Function.Injective compressionLabel := by
  intro left right same
  cases left <;> cases right <;> first | rfl | exact absurd same (by decide)

variable {identity : StreamExecutionIdentity} {inputs : List InputFile} {format : OutputFormat}

lemma identityOf_eq_iff {outputPath : String}
    (isFirst : identityOf env first inputs outputPath format = .ok identity) :
    identityOf env second inputs outputPath format = .ok identity ↔
      SameRecorded first second := by
  obtain ⟨_, hashed, made⟩ := Result.bind_eq_ok.mp isFirst
  rw [identityOf, hashed]
  rw [← Result.pure_eq_ok.mp made]
  constructor
  · intro same
    have fields := Except.ok.inj same
    simp only [StreamExecutionIdentity.mk.injEq] at fields
    obtain ⟨-, -, -, -, policy, compression, batchSize⟩ := fields
    exact ⟨(policyLabel_injective policy).symm, (compressionLabel_injective compression).symm,
      batchSize.symm⟩
  · intro ⟨policy, compression, batchSize⟩
    rw [policy, compression, batchSize]
    rfl

open Fallible

/-- Every checkpoint that is written has this identity. -/
def SavesFor (identity : StreamExecutionIdentity) (request : FsRequest StreamFile) : Prop :=
  ∀ path saved, request = .write path (.checkpoint saved) → saved.identity = identity

variable {state : ProcessingState}

/-- Only checkpoints with the identity are written, and the result is good. -/
abbrev SavesOnly {α : Type} (identity : StreamExecutionIdentity) (good : α → Prop)
    (prog : StreamM α) : Prop :=
  Asks (SavesFor identity) good prog

abbrev Saves {α : Type} (identity : StreamExecutionIdentity) (prog : StreamM α) : Prop :=
  SavesOnly identity (fun _ => True) prog

variable {request : FsRequest StreamFile}

lemma savesFor_other (other : ∀ path saved, request ≠ .write path (.checkpoint saved)) :
    SavesFor identity request :=
  fun path saved same => absurd same (other path saved)

lemma savesOnly_call (allowed : SavesFor identity request) : Saves identity (call request) := by
  refine asks_request_bind allowed fun answer => ?_
  cases answer with
  | ok => exact asks_pure trivial
  | error => exact asks_throw

lemma savesOnly_result {α : Type} {outcome : Except MawError α} :
    SavesOnly identity (fun value => outcome = .ok value) (result outcome) := by
  cases outcome with
  | ok => exact asks_pure rfl
  | error => exact asks_throw

variable {path : String}

lemma savesOnly_data {bytes : Bytes} : Saves identity (call (.write path (.data bytes))) :=
  savesOnly_call (savesFor_other (by simp))

lemma savesOnly_read : Saves identity (call (.read path)) :=
  savesOnly_call (savesFor_other (by simp))

lemma savesOnly_checkpoint (isFor : state.identity = identity) :
    Saves identity (call (.write path (.checkpoint state))) := by
  apply savesOnly_call
  intro _ _ same
  cases same
  exact isFor

lemma savesOnly_rename {source target : String} : Saves identity (call (.rename source target)) :=
  savesOnly_call (savesFor_other (by simp))

lemma savesOnly_exists : Saves identity (call (.exists path)) :=
  savesOnly_call (savesFor_other (by simp))

lemma savesOnly_createDirAll : Saves identity (call (.createDirAll path)) :=
  savesOnly_call (savesFor_other (by simp))

variable {statePath : String}

lemma savesOnly_saveState (isFor : state.identity = identity) :
    Saves identity (saveState statePath state) := by
  have parent : Saves identity (createParent statePath) := by
    rw [createParent]
    split
    · exact savesOnly_createDirAll
    · exact asks_pure trivial
  exact asks_bind parent fun _ _ => asks_bind (savesOnly_checkpoint isFor) fun _ _ =>
    savesOnly_rename

variable {written : Bytes}

lemma savesOnly_copyToCsv {headersWritten : Bool} : Saves identity
      (copyToCsv env aligner fields part items headersWritten written rows) := by
  induction items generalizing headersWritten written rows with
  | nil => exact asks_pure trivial
  | cons _ _ ih =>
    exact asks_bind savesOnly_result fun _ _ => asks_bind savesOnly_result fun _ _ =>
      asks_bind savesOnly_data fun _ _ => ih

lemma savesOnly_copyToParquet {writer : Option (List Batch)} : Saves identity
      (copyToParquet env aligner fields part items writer rows) := by
  induction items generalizing writer rows with
  | nil => exact asks_pure trivial
  | cons _ _ ih =>
    have ensured : Saves identity (ensureWriter env part writer) := by
      cases writer with
      | none => exact asks_bind savesOnly_data fun _ _ => asks_pure trivial
      | some => exact asks_pure trivial
    exact asks_bind savesOnly_result fun _ _ => asks_bind ensured fun _ _ => ih

lemma savesOnly_processOneFile :
    Saves identity (processOneFile env cli unified format file part) := by
  refine asks_bind savesOnly_read fun contents _ => ?_
  refine asks_bind savesOnly_result fun opened _ => ?_
  cases format with
  | csv => exact asks_bind savesOnly_data fun _ _ => savesOnly_copyToCsv
  | parquet =>
    refine asks_bind savesOnly_copyToParquet fun copied _ => ?_
    have finished : Saves identity (finishWriter env cli unified.schema part copied.1) := by
      cases copied.1 with
      | none => exact asks_pure trivial
      | some => exact asks_bind savesOnly_result fun _ _ => savesOnly_data
    exact asks_bind finished fun _ _ => asks_pure trivial

lemma identity_markFileProcessed : (state.markFileProcessed path).identity = state.identity := by
  rw [ProcessingState.markFileProcessed]
  split <;> rfl

variable {staging : String}

lemma savesOnly_convertFiles {idx : Nat} (isFor : state.identity = identity) :
    SavesOnly identity (fun final => final.identity = identity)
      (convertFiles env cli unified format staging statePath idx inputs state) := by
  induction inputs generalizing idx state with
  | nil => exact asks_pure isFor
  | cons file _ ih =>
    rw [convertFiles]
    split
    · exact ih isFor
    · have marked : (state.markFileProcessed file.path).identity = identity :=
        identity_markFileProcessed.trans isFor
      have converted : SavesOnly identity (fun next => next.identity = identity)
          (convertFile env cli unified format staging statePath idx file state) := by
        refine asks_bind savesOnly_processOneFile fun _ _ => ?_
        refine asks_bind (savesOnly_saveState marked) fun _ _ => ?_
        split
        · exact asks_throw
        · exact asks_pure marked
      exact asks_bind converted fun _ next => ih next

variable {parts : List String}

lemma savesOnly_readParts : Saves identity (readParts env parts) := by
  induction parts with
  | nil => exact asks_pure trivial
  | cons _ _ ih =>
    exact asks_bind savesOnly_read fun _ _ => asks_bind savesOnly_result fun _ _ =>
      asks_bind ih fun _ _ => asks_pure trivial

variable {outputPath : String}

lemma savesOnly_joinCsv {first : Bool} :
    Saves identity (joinCsv env outputPath parts first written) := by
  induction parts generalizing first written with
  | nil => exact asks_pure trivial
  | cons _ _ ih =>
    exact asks_bind savesOnly_read fun _ _ => asks_bind savesOnly_data fun _ _ => ih

lemma savesOnly_joinParts : Saves identity (joinParts env outputPath format unified parts) := by
  cases format with
  | parquet =>
    exact asks_bind savesOnly_data fun _ _ => asks_bind savesOnly_readParts fun _ _ =>
      asks_bind savesOnly_result fun _ _ => savesOnly_data
  | csv => exact asks_bind savesOnly_data fun _ _ => savesOnly_joinCsv

lemma savesOnly_finalize : Saves identity
      (finalizeStagedParts env staging outputPath format unified) := by
  refine asks_bind (savesOnly_call (savesFor_other (by simp))) fun names _ => ?_
  split
  · exact asks_throw
  · exact savesOnly_rename
  · exact savesOnly_joinParts

lemma savesOnly_clearStaging : Saves identity (clearStaging staging) := by
  refine asks_bind savesOnly_exists fun there _ => ?_
  cases there with
  | true => exact asks_request_bind (savesFor_other (by simp)) fun _ => asks_pure trivial
  | false => exact asks_pure trivial

variable {fresh : ProcessingState}

lemma identity_addFiles
    (adds : addFiles env state inputs = .ok fresh) : fresh.identity = state.identity := by
  induction inputs generalizing state with
  | nil =>
    cases adds
    rfl
  | cons file _ ih =>
    rw [addFiles, foldlM_cons] at adds
    obtain ⟨_, added, continues⟩ := Result.bind_eq_ok.mp adds
    obtain ⟨found, -, rfl⟩ := Result.map_eq_ok.mp added
    exact @ih (state.addFile file found) continues

lemma savesOnly_freshState : SavesOnly identity (fun fresh => fresh.identity = identity)
      (freshState env statePath identity staging inputs) := by
  refine asks_bind savesOnly_clearStaging fun _ _ => ?_
  refine asks_bind savesOnly_result fun fresh adds => ?_
  have isFor : fresh.identity = identity := identity_addFiles adds
  exact asks_bind (savesOnly_saveState isFor) fun _ _ => asks_pure isFor

lemma savesOnly_resumeState :
    SavesOnly identity (fun start => ∀ state ∈ start, state.identity = identity)
      (resumeState env statePath identity outputPath) := by
  refine asks_bind savesOnly_exists fun there _ => ?_
  cases there with
  | false => exact asks_throw
  | true =>
    have loads : Saves identity (loadState env statePath) :=
      asks_bind savesOnly_read fun _ _ => asks_bind savesOnly_result fun _ _ =>
        savesOnly_result.weaken (fun _ allowed => allowed) fun _ _ => trivial
    refine asks_bind loads fun loaded _ => ?_
    refine asks_bind savesOnly_result fun _ accepted => ?_
    have finished : Saves identity (isFinished outputPath loaded) := by
      rw [isFinished]
      split
      · exact savesOnly_exists
      · exact asks_pure trivial
    refine asks_bind finished fun finished _ => asks_pure fun state isStart => ?_
    have isFor : loaded.identity = identity := by
      by_contra other
      rw [acceptCheckpoint, if_pos other] at accepted
      cases accepted
    cases finished with
    | true => cases isStart
    | false =>
      cases isStart
      exact isFor

lemma savesOnly_startState :
    SavesOnly identity (fun start => ∀ state ∈ start, state.identity = identity)
      (startState env cli statePath identity outputPath staging inputs) := by
  rw [startState]
  split
  · exact savesOnly_resumeState
  · refine asks_bind savesOnly_freshState fun fresh isFor => asks_pure fun state isStart => ?_
    cases isStart
    exact isFor

/-- Whatever is written as a checkpoint carries the identity of the run. -/
lemma savesOnly_executeResumable (isIdentity : identityOf env cli inputs outputPath format =
      .ok identity) : Saves identity
      (executeResumable env cli inputs unified outputPath format) := by
  unfold executeResumable
  split
  · exact asks_throw
  · refine asks_bind savesOnly_result fun found isFound => ?_
    rw [isIdentity] at isFound
    cases isFound
    refine asks_bind savesOnly_startState fun start isFor => ?_
    cases start with
    | none => exact asks_pure trivial
    | some state =>
      refine asks_bind savesOnly_createDirAll fun _ _ => ?_
      refine asks_bind (savesOnly_convertFiles (isFor state rfl)) fun final finalFor => ?_
      split
      · exact asks_bind savesOnly_finalize fun _ _ =>
          asks_bind (savesOnly_saveState finalFor) fun _ _ => savesOnly_clearStaging
      · exact asks_pure trivial

/-- A fresh run comes to save its checkpoint. -/
lemma mayAsk_freshState (adds : addFiles env (.new identity) inputs = .ok fresh) :
    (freshState env statePath identity staging inputs).run.MayAsk
      (.write (tmpPath statePath) (.checkpoint fresh)) := by
  have saves : (saveState statePath fresh).run.MayAsk
      (.write (tmpPath statePath) (.checkpoint fresh)) := by
    rw [saveState, createParent]
    split
    · exact .later (.ok ()) .here
    · exact .here
  refine .later (.ok false) ?_
  change (result (addFiles env (.new identity) inputs) >>= fun fresh =>
    saveState statePath fresh >>= fun _ => pure fresh).run.MayAsk _
  rw [adds]
  rw [ExceptT.run_bind]
  exact saves.bind

lemma mayAsk_executeResumable (isState : cli.state = some statePath) (isFresh : cli.resume = false)
    (isIdentity : identityOf env cli inputs outputPath format = .ok identity)
    (adds : addFiles env (.new identity) inputs = .ok fresh) :
    (executeResumable env cli inputs unified outputPath format).run.MayAsk
      (.write (tmpPath statePath) (.checkpoint fresh)) := by
  have starts : startState env cli statePath identity outputPath
      (Path.withExtension outputPath "staging") inputs =
        freshState env statePath identity (Path.withExtension outputPath "staging") inputs >>=
          fun fresh => pure (some fresh) := by
    rw [startState, isFresh]
    rfl
  unfold executeResumable
  rw [isState, isIdentity]
  change (startState env cli statePath identity outputPath _ inputs >>= fun _ => _).run.MayAsk _
  rw [starts, ExceptT.run_bind, ExceptT.run_bind]
  exact (mayAsk_freshState adds).bind.bind

end

/-! ## Settings -/

def Cli.selects (cli : Cli) (name : String) : Bool :=
  (cli.columns.map columnNames).all (·.contains name) &&
    !(cli.exclude.map columnNames).any (·.contains name)

lemma selects_aligner (name : String) : (cli.aligner unified).selects name = cli.selects name := rfl

def Cli.delimiterByte (cli : Cli) : UInt8 := (cli.delimiter.map asU8).getD DEFAULT_DELIMITER

def Cli.quoteByte (cli : Cli) : UInt8 := (cli.quote.map asU8).getD DEFAULT_QUOTE

/-- The column is selected, and a CSV file can have it. -/
def Cli.Reads (cli : Cli) (name : String) : Prop :=
  cli.selects name = true ∧ (cli.noHeaders = true → ∃ idx, name = columnName idx)

section

variable {lib : Library} {left right : CsvReader} {reader : CsvReader} {records : List (List Bytes)}

lemma columns_of_mem {array : ArrowArray}
    (mem : array ∈ (range reader.headers.length).map fun idx =>
      createColumnArray lib (records.map (reader.valueAt lib idx))) :
    array.cells.length = records.length := by
  obtain ⟨_, -, rfl⟩ := mem_map.mp mem
  have parsed (dataType : DataType) (parse : String → Option Scalar)
      (values : List (Option String)) :
      (parsedArray dataType parse values).cells.length = values.length := length_map _
  unfold createColumnArray
  dsimp only
  split_ifs
  all_goals rw [parsed, length_map]

/-- Records make a batch exactly if there are columns. -/
lemma exists_recordsToBatch (named : reader.headers ≠ []) :
    ∃ batch, reader.recordsToBatch lib records = .ok batch ∧ batch.numRows = records.length := by
  let columns := (range reader.headers.length).map fun idx =>
    createColumnArray lib (records.map (reader.valueAt lib idx))
  let fields : Schema :=
    (reader.headers.zip columns).map fun entry => ⟨entry.1, entry.2.dataType, true⟩
  have count : columns.length = reader.headers.length := by
    rw [length_map, length_range]
  have types : Forall₂ (fun field array => field.dataType = array.dataType) fields
      columns := by
    rw [forall₂_iff_get]
    refine ⟨by simp [fields, count], fun idx here there => ?_⟩
    simp [fields]
  have nonempty : columns ≠ [] := by
    intro empty
    rw [empty] at count
    exact named (length_eq_zero_iff.mp count.symm)
  have nullable : ∀ field ∈ fields, field.nullable = true := by
    intro _ mem
    obtain ⟨_, -, rfl⟩ := mem_map.mp mem
    rfl
  have made := (tryNewArrays_eq_ok nullable fun _ => columns_of_mem).mpr ⟨nonempty, types, rfl⟩
  refine ⟨_, Result.mapError_eq_ok.mpr made, ?_⟩
  simp [RecordBatch.numRows, arrayRows]

lemma recordsToBatch_of_unnamed (unnamed : reader.headers = []) :
    reader.recordsToBatch lib records =
      .error (.arrow "must either specify a row count or at least one column") := by
  rw [recordsToBatch, unnamed]
  rfl

/-- The readers have the same records to read. -/
structure SameRecords (left right : CsvReader) : Prop where
  records : left.records = right.records
  headers : left.headers = right.headers
  batchSize : left.batchSize = right.batchSize
  pendingRecord : left.pendingRecord = right.pendingRecord

/-- Both are failures, or batches with the same number of rows. -/
def SameShape (left right : Except MawError Batch) : Prop :=
  left.toOption.map (·.numRows) = right.toOption.map (·.numRows)

variable {fuel : Nat}

/-- What one call of `read_batch` does with the records that it takes. -/
lemma readBatches_succ {taken : List (List Bytes)} {rest : List (Except String (List Bytes))}
    (takes : takeRecords reader.batchSize reader.records = .ok (taken, rest)) :
    reader.readBatches lib (fuel + 1) =
      if (reader.pendingRecord.toList ++ taken).isEmpty then []
      else
        match reader.recordsToBatch lib (reader.pendingRecord.toList ++ taken) with
        | .error error => [.error error]
        | .ok batch => .ok batch :: readBatches lib fuel
            { reader with records := rest, pendingRecord := none } := by
  rw [readBatches, readBatch, takes]
  by_cases empty : (reader.pendingRecord.toList ++ taken).isEmpty = true
  · simp [empty, bind, Except.bind, pure, Except.pure]
  · cases made : reader.recordsToBatch lib (reader.pendingRecord.toList ++ taken) with
    | error => simp [empty, made, bind, Except.bind]
    | ok => simp [empty, made, bind, Except.bind, pure, Except.pure]

lemma readBatches_error {error : MawError}
    (fails : takeRecords reader.batchSize reader.records = .error error) :
    reader.readBatches lib (fuel + 1) = [.error error] := by
  unfold readBatches readBatch
  rw [fails]
  rfl

lemma readBatches_ne_nil
    (pending : reader.pendingRecord.isSome = true) : reader.readBatches lib (fuel + 1) ≠ [] := by
  cases taken : takeRecords reader.batchSize reader.records with
  | error =>
    rw [readBatches_error taken]
    exact cons_ne_nil _ _
  | ok =>
    obtain ⟨_, isPending⟩ := isSome_iff_exists.mp pending
    rw [readBatches_succ taken, isPending, if_neg (by simp)]
    split <;> exact cons_ne_nil _ _

lemma sameShape_readBatches (same : SameRecords left right) (fuel : Nat) :
    Forall₂ SameShape (left.readBatches lib fuel) (right.readBatches lib fuel) := by
  induction fuel generalizing left right with
  | zero => exact .nil
  | succ _ ih =>
    have takes : takeRecords left.batchSize left.records =
        takeRecords right.batchSize right.records := by rw [same.records, same.batchSize]
    cases taken : takeRecords right.batchSize right.records with
    | error =>
      rw [readBatches_error (takes.trans taken), readBatches_error taken]
      exact .cons rfl .nil
    | ok result =>
      rw [readBatches_succ (takes.trans taken), readBatches_succ taken, same.pendingRecord]
      split_ifs
      · exact .nil
      · by_cases unnamed : right.headers = []
        · rw [recordsToBatch_of_unnamed unnamed,
            recordsToBatch_of_unnamed (same.headers.trans unnamed)]
          exact .cons rfl .nil
        · obtain ⟨_, made, rows⟩ := @exists_recordsToBatch lib right
            (right.pendingRecord.toList ++ result.1) unnamed
          obtain ⟨_, alsoMade, alsoRows⟩ := @exists_recordsToBatch lib left
            (right.pendingRecord.toList ++ result.1) (same.headers ▸ unnamed)
          rw [made, alsoMade]
          refine .cons (congrArg some (alsoRows.trans rows.symm)) (ih ?_)
          exact ⟨rfl, same.headers, same.batchSize, rfl⟩

/-- The readers read the same values, too. -/
structure SameValues (lib : Library) (left right : CsvReader) : Prop extends
    SameRecords left right where
  values : ∀ idx record, left.valueAt lib idx record = right.valueAt lib idx record

lemma readBatches_eq (same : SameValues lib left right) (fuel : Nat) :
    left.readBatches lib fuel = right.readBatches lib fuel := by
  induction fuel generalizing left right with
  | zero => rfl
  | succ _ ih =>
    have takes : takeRecords left.batchSize left.records =
        takeRecords right.batchSize right.records := by rw [same.records, same.batchSize]
    cases taken : takeRecords right.batchSize right.records with
    | error => rw [readBatches_error (takes.trans taken), readBatches_error taken]
    | ok result =>
      have batches (records : List (List Bytes)) :
          left.recordsToBatch lib records = right.recordsToBatch lib records := by
        simp [recordsToBatch, same.headers, funext fun idx => funext (same.values idx)]
      rw [readBatches_succ (takes.trans taken), readBatches_succ taken, same.pendingRecord,
        batches, @ih { left with records := result.2, pendingRecord := none }
          { right with records := result.2, pendingRecord := none }
          ⟨⟨rfl, same.headers, same.batchSize, rfl⟩, same.values⟩]

end

/-- The settings that the rows of CSV files depend on agree. If no column is selected every batch
is refused, so only the number of records counts; if no selected column can be read all values are
NULL. -/
structure SameSettings (first second : Cli) : Prop where
  columns : ∀ name, first.selects name = second.selects name
  headers : first.noHeaders = second.noHeaders
  tokens : (∃ name, first.selects name = true) ∨ first.noHeaders = false →
    first.delimiterByte = second.delimiterByte ∧ first.quoteByte = second.quoteByte
  texts : (∃ name, first.Reads name) → encodingOf first.encoding = encodingOf second.encoding ∧
      ∀ text, text ∈ first.csvConfig.naValues ↔ text ∈ second.csvConfig.naValues

/-! ## Accepted options -/

section

variable {fields : List String} {contents : Bytes}

lemma alignColumns_congr {format : NumberFormat} {left right : BatchAligner}
    {batch other : Batch} {columns : List Field} (each : ∀ field ∈ columns,
      left.alignColumn format batch fields field = right.alignColumn format other fields field) :
    left.alignColumns format batch fields columns =
      right.alignColumns format other fields columns := by
  induction columns with
  | nil => rfl
  | cons _ _ ih =>
    obtain ⟨here, later⟩ := forall_mem_cons.mp each
    rw [alignColumns, alignColumns, here, ih later]

lemma selected_eq (columns : ∀ name, first.selects name = second.selects name) :
    (first.aligner unified).selected = (second.aligner unified).selected :=
  filter_congr fun field _ => columns field.name

/-- The options select the same columns. -/
lemma alignItem_eq (columns : ∀ name, first.selects name = second.selects name)
    (item : Except MawError Batch) :
    alignItem env (first.aligner unified) fields item =
      alignItem env (second.aligner unified) fields item := by
  cases item with
  | error => rfl
  | ok batch =>
    have aligned : (first.aligner unified).alignColumns env.lib.numbers batch fields
        (second.aligner unified).selected =
          (second.aligner unified).alignColumns env.lib.numbers batch fields
            (second.aligner unified).selected := alignColumns_congr fun _ _ => rfl
    change ((first.aligner unified).alignBatchWithSource _ batch fields).mapError _ =
      ((second.aligner unified).alignBatchWithSource _ batch fields).mapError _
    rw [alignBatchWithSource, alignBatchWithSource, selected_eq columns, aligned]
    rfl

/-- If the file has no selected column, only the number of rows counts. -/
lemma alignItem_of_missing (missing : ∀ name, cli.selects name = true → name ∉ fields)
    {item other : Except MawError Batch} (same : SameShape item other) :
    (alignItem env (cli.aligner unified) fields item).toOption =
      (alignItem env (cli.aligner unified) fields other).toOption := by
  cases item with
  | error error =>
    cases other with
    | error => rfl
    | ok => cases same
  | ok batch =>
    cases other with
    | error => cases same
    | ok another =>
      have rows : batch.numRows = another.numRows := Option.some.inj same
      have unread (someBatch : Batch) : ∀ field ∈ (cli.aligner unified).selected,
          (cli.aligner unified).sourceOf someBatch fields field.name = none := by
        intro field mem
        have absent := missing field.name (mem_filter.mp mem).2
        have nowhere : (fields.findIdx? fun source => source = field.name) = none := by
          rw [findIdx?_eq_none_iff]
          intro source isSource
          rw [decide_eq_false_iff_not]
          rintro rfl
          exact absent isSource
        change ((fields.findIdx? fun source => source = field.name).bind _) = none
        rw [nowhere]
        rfl
      change (((cli.aligner unified).alignBatchWithSource _ batch _).mapError _).toOption =
        (((cli.aligner unified).alignBatchWithSource _ another _).mapError _).toOption
      rw [alignBatchWithSource, alignBatchWithSource, alignColumns_congr fun field mem => ?_]
      rw [alignColumn, alignColumn, unread batch field mem, unread another field mem, rows]

/-- Reader for the records after the headers. -/
def Cli.readerOf (cli : Cli)
    (found : List String × Option (List Bytes) × List (Except String (List Bytes))) : CsvReader :=
  ⟨found.2.2, found.1, cli.batchSize, cli.csvConfig.naValues, encodingOf cli.encoding, found.2.1⟩

/-- Headers of a CSV file and the records after them. -/
def Cli.headersOf (cli : Cli) (lib : Library) (contents : Bytes) :
    Except MawError (List String × Option (List Bytes) × List (Except String (List Bytes))) :=
  readHeaders lib (!cli.noHeaders) (lib.csvRecords cli.delimiterByte cli.quoteByte contents)

lemma openInput_csv (format : file.format = .csv) :
    openInput env cli file contents = (cli.headersOf env.lib contents).map fun found =>
      (found.1, (cli.readerOf found).readBatches env.lib (found.2.2.length + 2)) := by
  unfold openInput
  rw [format]
  change ((cli.headersOf env.lib contents).bind _ >>= fun _ => _) = _
  cases cli.headersOf env.lib contents with
  | error => rfl
  | ok => rfl

lemma headersOf_eq (headers : first.noHeaders = second.noHeaders)
    (delimiter : first.delimiterByte = second.delimiterByte)
    (quote : first.quoteByte = second.quoteByte) (lib : Library) :
    first.headersOf lib contents = second.headersOf lib contents := by
  rw [Cli.headersOf, Cli.headersOf, headers, delimiter, quote]

variable {lib : Library}
  {found : List String × Option (List Bytes) × List (Except String (List Bytes))}

/-- Without headers the columns are numbered, and the first record is a record. -/
lemma columnName_of_headersOf
    (unnamed : cli.noHeaders = true) (isFound : cli.headersOf lib contents = .ok found) :
    (∀ name ∈ found.1, ∃ idx, name = columnName idx) ∧ found.2.1.isSome = true := by
  rw [Cli.headersOf, unnamed] at isFound
  cases records : lib.csvRecords cli.delimiterByte cli.quoteByte contents with
  | nil =>
    rw [records] at isFound
    cases isFound
    exact ⟨by simp, rfl⟩
  | cons record =>
    rw [records] at isFound
    cases record with
    | error => cases isFound
    | ok =>
      cases isFound
      refine ⟨fun name mem => ?_, rfl⟩
      obtain ⟨idx, -, rfl⟩ := mem_map.mp mem
      exact ⟨idx, rfl⟩

lemma sameRecords_readerOf (recorded : SameRecorded first second) :
    SameRecords (first.readerOf found) (second.readerOf found) :=
  ⟨rfl, rfl, recorded.batchSize, rfl⟩

lemma sameValues_readerOf (recorded : SameRecorded first second)
    (encoding : encodingOf first.encoding = encodingOf second.encoding)
    (na : ∀ text, text ∈ first.csvConfig.naValues ↔ text ∈ second.csvConfig.naValues) :
    SameValues lib (first.readerOf found) (second.readerOf found) := by
  refine ⟨sameRecords_readerOf recorded, fun idx record => ?_⟩
  have contains (text : String) : (first.readerOf found).naValues.contains text =
      (second.readerOf found).naValues.contains text := by
    rw [Bool.eq_iff_iff, contains_iff_mem, contains_iff_mem]
    exact na text
  have decodes (field : Bytes) : (first.readerOf found).decodeField lib field =
      (second.readerOf found).decodeField lib field := by
    rw [decodeField, decodeField, Cli.readerOf, Cli.readerOf, encoding]
  simp only [valueAt, contains, decodes]

/-- No batch is aligned when no column is selected. -/
lemma alignItem_of_unselected (unselected : ∀ name, cli.selects name = false)
    (item : Except MawError Batch) :
    (alignItem env (cli.aligner unified) fields item).toOption = none := by
  cases item with
  | error => rfl
  | ok batch =>
    have nothing : (cli.aligner unified).selected = [] := by
      rw [selected, filter_eq_nil_iff]
      intro _ _
      rw [selects_aligner, unselected]
      exact Bool.false_ne_true
    change (((cli.aligner unified).alignBatchWithSource _ batch _).mapError _).toOption = none
    rw [alignBatchWithSource, nothing]
    change ((((tryNewArrays unified.schema []).mapError _).mapError _)).toOption = none
    rw [tryNewArrays]
    split <;> rfl

/-- A file without headers has a first batch, or none of it can be read. -/
lemma fileRows_of_unselected (format : file.format = .csv)
    (unselected : ∀ name, cli.selects name = false) (unnamed : cli.noHeaders = true) :
    fileRows env cli unified file contents = none := by
  rw [fileRows, fileBatches, openInput_csv format]
  cases isFound : cli.headersOf env.lib contents with
  | error => rfl
  | ok found =>
    obtain ⟨-, pending⟩ := columnName_of_headersOf unnamed isFound
    have nonempty := @readBatches_ne_nil env.lib (cli.readerOf found) (found.2.2.length + 1) pending
    change ((((cli.readerOf found).readBatches env.lib (found.2.2.length + 2)).mapM
      (alignItem env (cli.aligner unified) found.1)).toOption.map rowsOf) = none
    cases isItems : (cli.readerOf found).readBatches env.lib (found.2.2.length + 2) with
    | nil => exact absurd isItems nonempty
    | cons item =>
      have fails := @alignItem_of_unselected env cli unified found.1 unselected item
      rw [mapM_cons]
      cases isError : alignItem env (cli.aligner unified) found.1 item with
      | error => rfl
      | ok =>
        rw [isError] at fails
        cases fails

/-- Rows are determined by the recorded options and the settings. -/
lemma fileRows_eq (recorded : SameRecorded first second) (settings : SameSettings first second) :
    fileRows env first unified file contents = fileRows env second unified file contents := by
  have aligned (fields : List String) := funext
    (@alignItem_eq env first second unified fields settings.columns)
  cases format : file.format with
  | parquet =>
    rw [fileRows, fileRows, fileBatches, fileBatches]
    simp [openInput, format, recorded.batchSize, aligned]
  | csv =>
    by_cases unread : (∃ name, first.selects name = true) ∨ first.noHeaders = false
    · obtain ⟨delimiter, quote⟩ := settings.tokens unread
      rw [fileRows, fileRows, fileBatches, fileBatches, openInput_csv format,
        openInput_csv format, headersOf_eq settings.headers delimiter quote]
      cases isFound : second.headersOf env.lib contents with
      | error => rfl
      | ok found =>
        change (mapM (alignItem env _ found.1) _).toOption.map rowsOf =
          (mapM (alignItem env _ found.1) _).toOption.map rowsOf
        rw [aligned]
        by_cases reads : ∃ name, first.Reads name
        · obtain ⟨encoding, na⟩ := settings.texts reads
          rw [readBatches_eq (sameValues_readerOf recorded encoding na)]
        · have missing : ∀ name, second.selects name = true → name ∉ found.1 := by
            intro name selected mem
            refine reads ⟨name, (settings.columns name).trans selected, fun unnamed => ?_⟩
            rw [settings.headers] at unnamed
            exact (columnName_of_headersOf unnamed isFound).1 name mem
          rw [Result.toOption_mapM ((sameShape_readBatches
            (sameRecords_readerOf recorded) _).imp fun _ _ =>
              alignItem_of_missing missing)]
    · obtain ⟨unselected, unnamed⟩ := not_or.mp unread
      rw [Bool.not_eq_false] at unnamed
      have noneSelected (name : String) : first.selects name = false := by
        rw [← Bool.not_eq_true]
        exact fun selected => unselected ⟨name, selected⟩
      rw [fileRows_of_unselected format noneSelected unnamed,
        fileRows_of_unselected format (fun name => (settings.columns name) ▸ noneSelected name)
          (settings.headers ▸ unnamed)]

end

/-- Every run that resumes the conversion of another one converts the files to the same rows:
whatever the libraries and the file system do, if a run with the first options saves a checkpoint
and a resumed run with the second options accepts it, both map every input file to the same rows.
-/
def UsesOriginalOptions (first second : Cli) : Prop :=
  ∀ (env : StreamEnv) (inputs : List InputFile) (unified : UnifiedSchema)
    (statePath outputPath : String) (format : OutputFormat) (resumed : Bool)
    (saved : ProcessingState) (identity : StreamExecutionIdentity),
    first.state = some statePath →
    (executeResumable env { first with resume := resumed } inputs unified outputPath
      format).run.MayAsk (.write (tmpPath statePath) (.checkpoint saved)) →
    identityOf env second inputs outputPath format = .ok identity →
    acceptCheckpoint env identity saved = .ok () →
    ∀ file ∈ inputs, ∀ contents,
      fileRows env first unified file contents = fileRows env second unified file contents

/-- A checkpoint that is accepted was saved with the same recorded options. -/
lemma sameRecorded_of_accepted {inputs : List InputFile} {statePath outputPath : String}
    {format : OutputFormat} {saved : ProcessingState} {identity : StreamExecutionIdentity}
    (mayAsk : (executeResumable env first inputs unified outputPath format).run.MayAsk
      (.write (tmpPath statePath) (.checkpoint saved)))
    (isSecond : identityOf env second inputs outputPath format = .ok identity)
    (accepted : acceptCheckpoint env identity saved = .ok ()) : SameRecorded first second := by
  cases isFirst : identityOf env first inputs outputPath format with
  | error =>
    unfold executeResumable at mayAsk
    rw [isFirst] at mayAsk
    split at mayAsk <;> cases mayAsk
  | ok original =>
    have isFor : saved.identity = original :=
      (savesOnly_executeResumable isFirst).of_mayAsk mayAsk _ _ rfl
    rw [acceptCheckpoint] at accepted
    split at accepted
    · cases accepted
    · rename_i same
      rw [not_not, isFor] at same
      rw [← same] at isSecond
      exact (identityOf_eq_iff isFirst).mp isSecond

/-! ## Files that tell settings apart -/

section

/-- An environment in which the metadata of all files is the same. -/
def plainEnv (lib : Library) : StreamEnv where
  lib := lib
  metadata := fun _ => .ok ⟨0, 0⟩
  digest := fun _ => ""
  checkpointText := fun _ => []
  parseCheckpoint := fun _ => .error "not a checkpoint"
  interruptAfter := none

/-- Options that agree on what is recorded convert every file to the same rows. -/
lemma fileRows_of_uses {statePath : String} (isState : first.state = some statePath)
    (uses : UsesOriginalOptions first second) (recorded : SameRecorded first second)
    (lib : Library) (unified : UnifiedSchema) (file : InputFile) (contents : Bytes) :
    fileRows (plainEnv lib) first unified file contents =
      fileRows (plainEnv lib) second unified file contents := by
  obtain ⟨identity, isFirst⟩ : ∃ identity,
      identityOf (plainEnv lib) first [file] "out.csv" .csv = .ok identity := ⟨_, rfl⟩
  have isSecond := (identityOf_eq_iff isFirst).mpr recorded
  let fresh := (ProcessingState.new identity).addFile file ⟨0, 0⟩
  have saves := @mayAsk_executeResumable (plainEnv lib) { first with resume := false } unified
    identity [file] .csv statePath "out.csv" fresh isState rfl isFirst rfl
  have accepted : acceptCheckpoint (plainEnv lib) identity fresh = .ok () := by
    have isFor : fresh.identity = identity := rfl
    rw [acceptCheckpoint, if_neg (not_not.mpr isFor)]
    rfl
  exact uses (plainEnv lib) [file] unified statePath "out.csv" .csv false fresh identity isState
    saves isSecond accepted file mem_cons_self contents

def silentNumbers : NumberFormat := ⟨fun _ => none, fun _ => none, fun _ => "", fun _ => 0⟩

/-- A library for files of one record. A Parquet file has no columns. -/
def oneRecord (records : UInt8 → UInt8 → List (Except String (List Bytes))) (header : String)
    (decode : Encoding → String) : Library where
  csvRecords := fun delimiter quote _ => records delimiter quote
  headerText := fun _ => .ok header
  decode := fun encoding _ => decode encoding
  csvLine := fun _ => []
  fromUtf8Lossy := id
  readParquet := fun _ _ => .ok ([], [.ok ⟨[], [[]]⟩])
  created := []
  writeParquet := fun _ _ _ => .ok []
  numbers := silentNumbers

/-- A schema of one column of texts. -/
def oneColumn (name : String) : UnifiedSchema := ⟨[⟨name, .utf8, true⟩], ∅⟩

variable {name : String}

lemma selected_oneColumn (selected : cli.selects name = true) :
    (cli.aligner (oneColumn name)).selected = (oneColumn name).schema := by
  refine filter_eq_self.mpr fun field mem => ?_
  rw [mem_singleton.mp mem]
  exact selected

lemma unselected_oneColumn (unselected : cli.selects name = false) :
    (cli.aligner (oneColumn name)).selected = [] := by
  refine filter_eq_nil_iff.mpr fun field mem => ?_
  rw [mem_singleton.mp mem]
  exact Bool.eq_false_iff.mp unselected

/-- A file without columns gets the selected one. -/
lemma fileRows_parquet {records : UInt8 → UInt8 → List (Except String (List Bytes))}
    {header : String} {decode : Encoding → String} :
    fileRows (plainEnv (oneRecord records header decode)) cli (oneColumn name)
      ⟨"in.parquet", .parquet⟩ [] = if cli.selects name then some [[none]] else none := by
  have aligns : fileRows (plainEnv (oneRecord records header decode)) cli (oneColumn name)
      ⟨"in.parquet", .parquet⟩ [] =
      ((mapM (alignItem (plainEnv (oneRecord records header decode))
        (cli.aligner (oneColumn name)) []) [.ok ⟨[], [[]]⟩]).toOption.map rowsOf) := rfl
  rw [aligns, mapM_cons, alignItem]
  cases selected : cli.selects name with
  | true =>
    simp only [bind, Except.bind, alignBatchWithSource, selected_oneColumn selected]
    rfl
  | false =>
    simp only [bind, Except.bind, alignBatchWithSource, unselected_oneColumn selected]
    rfl

section

variable {lib : Library}
  {found : List String × Option (List Bytes) × List (Except String (List Bytes))}

/-- What a file of headers and records is converted to. -/
lemma fileRows_csv (isFound : cli.headersOf lib [] = .ok found) :
    fileRows (plainEnv lib) cli unified ⟨"in.csv", .csv⟩ [] =
      (((cli.readerOf found).readBatches lib (found.2.2.length + 2)).mapM
        (alignItem (plainEnv lib) (cli.aligner unified) found.1)).toOption.map rowsOf := by
  have opens := @openInput_csv (plainEnv lib) cli ⟨"in.csv", .csv⟩ [] rfl
  change openInput (plainEnv lib) cli _ [] = (cli.headersOf lib []).map _ at opens
  rw [fileRows, fileBatches, opens, isFound]
  rfl

lemma fileRows_csv_error {message : String} {rest : List (Except String (List Bytes))}
    (records : lib.csvRecords cli.delimiterByte cli.quoteByte [] = .error message :: rest) :
    fileRows (plainEnv lib) cli unified ⟨"in.csv", .csv⟩ [] = none := by
  have opens := @openInput_csv (plainEnv lib) cli ⟨"in.csv", .csv⟩ [] rfl
  have fails : cli.headersOf lib [] = .error (.csv message) := by
    rw [Cli.headersOf, records]
    cases cli.noHeaders <;> rfl
  change openInput (plainEnv lib) cli _ [] = (cli.headersOf lib []).map _ at opens
  rw [fileRows, fileBatches, opens, fails]
  rfl

lemma takeRecords_nil (size : Nat) : takeRecords size [] = .ok ([], []) := by
  cases size with
  | zero => rfl
  | succ => rfl

lemma takeRecords_one {size : Nat} (positive : 0 < size) (record : List Bytes) :
    takeRecords size [.ok record] = .ok ([record], []) := by
  cases size with
  | zero => exact absurd positive (Nat.lt_irrefl 0)
  | succ =>
    rw [takeRecords, takeRecords_nil]
    rfl

variable {reader : CsvReader} {fuel : Nat}

lemma readBatches_nil (records : reader.records = [])
    (pending : reader.pendingRecord = none) : reader.readBatches lib (fuel + 1) = [] := by
  have takes : takeRecords reader.batchSize reader.records = .ok ([], []) := by
    rw [records, takeRecords_nil]
  rw [readBatches_succ takes, pending]
  rfl

/-- An empty file has no rows if it has headers, and cannot be read if not. -/
lemma fileRows_csv_empty (records : lib.csvRecords cli.delimiterByte cli.quoteByte [] = []) :
    fileRows (plainEnv lib) cli unified ⟨"in.csv", .csv⟩ [] =
      if cli.noHeaders then none else some [] := by
  cases unnamed : cli.noHeaders with
  | false =>
    have isFound : cli.headersOf lib [] = .ok ([], none, []) := by
      rw [Cli.headersOf, records, unnamed]
      rfl
    rw [fileRows_csv isFound, readBatches_nil rfl rfl]
    rfl
  | true =>
    have isFound : cli.headersOf lib [] = .ok ([], some [], []) := by
      rw [Cli.headersOf, records, unnamed]
      rfl
    have takes : takeRecords (cli.readerOf ([], some [], [])).batchSize
        (cli.readerOf ([], some [], [])).records = .ok ([], []) := takeRecords_nil _
    rw [fileRows_csv isFound, readBatches_succ takes, if_neg (by simp [Cli.readerOf]),
      recordsToBatch_of_unnamed rfl]
    rfl

/-- Value of an empty field. -/
def CsvReader.blank (reader : CsvReader) (lib : Library) : Option String :=
  if reader.naValues.contains (lib.decode reader.encoding []) then none
  else some (lib.decode reader.encoding [])

/-- Column of one empty field. -/
def CsvReader.blankArray (reader : CsvReader) (lib : Library) : ArrowArray :=
  createColumnArray lib [reader.blank lib]

/-- A text or NULL is the same after its column is coerced to texts. -/
lemma coerceColumn_text (numbers : lib.numbers = silentNumbers) (value : Option String) :
    coerceColumn silentNumbers (createColumnArray lib [value]) .utf8 1 =
      .ok ⟨.utf8, [value.map .utf8]⟩ := by
  have unparsed (text : String) : textKind lib text =
      if (parseBool text).isSome then .bool else .string := by
    rw [textKind, numbers]
    rfl
  cases value with
  | none => rfl
  | some text =>
    rw [createColumnArray]
    by_cases isTrue : text = "true"
    · subst isTrue
      simp only [filterMap_cons, map_some, unparsed]
      rfl
    by_cases isFalse : text = "false"
    · subst isFalse
      simp only [filterMap_cons, map_some, unparsed]
      rfl
    have plain : parseBool text = none := by
      rw [parseBool, if_neg isTrue, if_neg isFalse]
    simp only [filterMap_cons, map_some, unparsed, plain]
    rfl

lemma blankArray_length : (reader.blankArray lib).cells.length = 1 := by
  unfold blankArray createColumnArray
  dsimp only
  split_ifs <;> rfl

/-- Batch of one empty record. -/
def CsvReader.blankBatch (reader : CsvReader) (lib : Library) (last : Nat) : Batch :=
  ⟨reader.headers.map fun name => ⟨name, (reader.blankArray lib).dataType, true⟩,
    [replicate (last + 1) ((reader.blankArray lib).cells[0]?).join]⟩

variable {last : Nat}

lemma recordsToBatch_blank (count : reader.headers.length = last + 1) :
    reader.recordsToBatch lib [replicate (last + 1) []] = .ok (reader.blankBatch lib last) := by
  have columns : ((range reader.headers.length).map fun idx => createColumnArray lib
      (map (reader.valueAt lib idx) [replicate (last + 1) []])) =
        replicate (last + 1) (reader.blankArray lib) := by
    rw [count, eq_replicate_iff]
    refine ⟨by simp, fun array mem => ?_⟩
    obtain ⟨idx, inRange, rfl⟩ := mem_map.mp mem
    have there : (replicate (last + 1) ([] : Bytes))[idx]? = some [] := by
      rw [getElem?_replicate, if_pos (mem_range.mp inRange)]
    simp only [map_cons, map_nil, valueAt, there]
    rfl
  have fields : (reader.headers.zip (replicate (last + 1) (reader.blankArray lib))).map
      (fun entry => (⟨entry.1, entry.2.dataType, true⟩ : Field)) =
        reader.headers.map fun name => ⟨name, (reader.blankArray lib).dataType, true⟩ := by
    refine ext_getElem (by simp [count]) fun idx here there => ?_
    simp
  rw [recordsToBatch, columns, fields]
  refine Result.mapError_eq_ok.mpr ((@tryNewArrays_eq_ok _ _ _ 1 ?_ ?_).mpr ⟨?_, ?_, ?_⟩)
  · intro _ mem
    obtain ⟨_, -, rfl⟩ := mem_map.mp mem
    rfl
  · intro _ mem
    rw [eq_of_mem_replicate mem]
    exact blankArray_length
  · simp
  · rw [forall₂_iff_get]
    refine ⟨by simp [count], fun idx here there => ?_⟩
    simp
  · simp [arrayRows, blankBatch]

variable {taken : List (List Bytes)}

/-- A file of one empty record. -/
lemma readBatches_blank (count : reader.headers.length = last + 1)
    (takes : takeRecords reader.batchSize reader.records = .ok (taken, []))
    (one : reader.pendingRecord.toList ++ taken = [replicate (last + 1) []]) :
    reader.readBatches lib (fuel + 2) = [.ok (reader.blankBatch lib last)] := by
  rw [readBatches_succ takes, one, if_neg (by simp), recordsToBatch_blank count,
    readBatches_nil rfl rfl]

lemma sourceArray_blank {idx : Nat}
    (count : reader.headers.length = last + 1) (inRange : idx < last + 1) :
    sourceArray (reader.blankBatch lib last) idx = some (reader.blankArray lib) := by
  have here : ((reader.blankBatch lib last).schema[idx]?).map (·.dataType) =
      some (reader.blankArray lib).dataType := by
    simp [blankBatch, getElem?_eq_getElem (count ▸ inRange)]
  obtain ⟨_, isField, isType⟩ := map_eq_some_iff.mp here
  have cells : column (reader.blankBatch lib last) idx = (reader.blankArray lib).cells := by
    obtain ⟨_, isCell⟩ := length_eq_one_iff.mp (@blankArray_length lib reader)
    simp [column, blankBatch, cellAt, inRange, isCell]
  rw [sourceArray, isField, map_some, isType, cells]

/-- Value of the empty field, or NULL if the file does not have the column. -/
def CsvReader.cellOf (reader : CsvReader) (lib : Library) (name : String) : Cell :=
  if name ∈ reader.headers then (reader.blank lib).map .utf8 else none

lemma cellOf_of_mem (mem : name ∈ reader.headers) :
    reader.cellOf lib name = (reader.blank lib).map .utf8 := if_pos mem

lemma alignColumn_blank
    (numbers : lib.numbers = silentNumbers) (count : reader.headers.length = last + 1) :
    (cli.aligner (oneColumn name)).alignColumn silentNumbers (reader.blankBatch lib last)
      reader.headers ⟨name, .utf8, true⟩ = .ok ⟨.utf8, [reader.cellOf lib name]⟩ := by
  have source : (cli.aligner (oneColumn name)).sourceOf (reader.blankBatch lib last)
      reader.headers name = (reader.headers.findIdx? fun source => source = name).bind
        (sourceArray (reader.blankBatch lib last)) := rfl
  rw [alignColumn, source, cellOf]
  cases found : reader.headers.findIdx? fun source => source = name with
  | none =>
    have absent : name ∉ reader.headers := fun mem => by
      have differs := findIdx?_eq_none_iff.mp found name mem
      exact absurd rfl (of_decide_eq_false differs)
    rw [if_neg absent]
    rfl
  | some =>
    obtain ⟨inRange, isName, -⟩ := findIdx?_eq_some_iff_getElem.mp found
    have mem : name ∈ reader.headers := of_decide_eq_true isName ▸ getElem_mem inRange
    rw [if_pos mem, bind_some, sourceArray_blank count (count ▸ inRange)]
    exact coerceColumn_text numbers _

/-- The row that a file of one empty record is converted to. -/
lemma fileRows_blank
    (isFound : cli.headersOf lib [] = .ok found) (numbers : lib.numbers = silentNumbers)
    (selected : cli.selects name = true) (count : found.1.length = last + 1)
    (takes : takeRecords cli.batchSize found.2.2 = .ok (taken, []))
    (one : found.2.1.toList ++ taken = [replicate (last + 1) []]) :
    fileRows (plainEnv lib) cli (oneColumn name) ⟨"in.csv", .csv⟩ [] =
      some [[(cli.readerOf found).cellOf lib name]] := by
  have aligned : alignItem (plainEnv lib) (cli.aligner (oneColumn name)) found.1
      (.ok ((cli.readerOf found).blankBatch lib last)) =
        .ok ⟨(oneColumn name).schema, [[(cli.readerOf found).cellOf lib name]]⟩ := by
    have column := @alignColumn_blank cli name lib (cli.readerOf found) last numbers count
    have columns : (cli.aligner (oneColumn name)).alignColumns lib.numbers
        ((cli.readerOf found).blankBatch lib last) found.1 (oneColumn name).schema =
          .ok [⟨.utf8, [(cli.readerOf found).cellOf lib name]⟩] := by
      rw [numbers]
      change (alignColumn silentNumbers _ _ (cli.readerOf found).headers _ >>= fun _ => _) = _
      rw [column]
      rfl
    change ((cli.aligner (oneColumn name)).alignBatchWithSource lib.numbers _ _).mapError _ = _
    rw [alignBatchWithSource, selected_oneColumn selected, columns]
    rfl
  rw [fileRows_csv isFound,
    @readBatches_blank lib (cli.readerOf found) _ last taken count takes one, mapM_cons,
    aligned]
  rfl

end

lemma batchSize_pos : 0 < cli.batchSize := Nat.lt_of_lt_of_le Nat.one_pos (Nat.le_max_right _ _)

/-- A file without headers that has one empty record of some columns. -/
lemma fileRows_unnamed {lib : Library} {last : Nat}
    (numbers : lib.numbers = silentNumbers) (unnamed : cli.noHeaders = true)
    (selected : cli.selects name = true)
    (records : lib.csvRecords cli.delimiterByte cli.quoteByte [] =
      [.ok (replicate (last + 1) [])]) :
    fileRows (plainEnv lib) cli (oneColumn name) ⟨"in.csv", .csv⟩ [] =
      some [[(cli.readerOf ((range (last + 1)).map columnName,
        some (replicate (last + 1) []), [])).cellOf lib name]] := by
  have isFound : cli.headersOf lib [] =
      .ok ((range (last + 1)).map columnName, some (replicate (last + 1) []), []) := by
    rw [Cli.headersOf, records, unnamed]
    change Except.ok ((range (replicate (last + 1) ([] : Bytes)).length).map columnName, _, _) = _
    rw [length_replicate]
  exact fileRows_blank isFound numbers selected (by simp) (takeRecords_nil _) rfl

/-- What the reader makes of a text. -/
def Cli.textOf (cli : Cli) (text : String) : Option String :=
  if cli.csvConfig.naValues.contains text then none else some text

/-- A column that can be read shows what becomes of a text. -/
lemma exists_records (reads : first.Reads name) :
    ∃ records, ∀ (cli : Cli) (decode : Encoding → String), cli.noHeaders = first.noHeaders →
      cli.selects name = true →
      fileRows (plainEnv (oneRecord (fun _ _ => records) name decode)) cli (oneColumn name)
        ⟨"in.csv", .csv⟩ [] =
      some [[(cli.textOf (decode (encodingOf cli.encoding))).map .utf8]] := by
  cases unnamed : first.noHeaders with
  | true =>
    obtain ⟨idx, rfl⟩ := reads.2 unnamed
    refine ⟨[.ok (replicate (idx + 1) [])], fun cli decode same selected => ?_⟩
    have mem := mem_map_of_mem (f := columnName) (mem_range.mpr (Nat.lt_succ_self idx))
    rw [fileRows_unnamed rfl same selected rfl, cellOf_of_mem mem]
    rfl
  | false =>
    refine ⟨[.ok [[]], .ok [[]]], fun cli decode same selected => ?_⟩
    have isFound : cli.headersOf (oneRecord (fun _ _ => [.ok [[]], .ok [[]]]) name decode) [] =
        .ok ([name], none, [.ok [[]]]) := by
      rw [Cli.headersOf, same]
      rfl
    rw [fileRows_blank isFound rfl selected rfl (takeRecords_one batchSize_pos _) rfl,
      cellOf_of_mem mem_cons_self]
    rfl

lemma textOf_eq_none {text : String} : cli.textOf text = none ↔ text ∈ cli.csvConfig.naValues := by
  rw [← contains_iff_mem, Cli.textOf]
  split <;> simp_all

lemma exists_fresh_text (texts : List String) : ∃ text, text ≠ "" ∧ text ∉ texts := by
  obtain ⟨bound, short⟩ : ∃ bound, ∀ text ∈ texts, text.length ≤ bound := by
    induction texts with
    | nil => exact ⟨0, by simp⟩
    | cons text _ ih =>
      obtain ⟨bound, short⟩ := ih
      refine ⟨max text.length bound, forall_mem_cons.mpr ⟨Nat.le_max_left _ _, ?_⟩⟩
      exact fun other mem => (short other mem).trans (Nat.le_max_right _ _)
  have isLong : (String.ofList (replicate (bound + 1) 'x')).length = bound + 1 := by simp
  refine ⟨String.ofList (replicate (bound + 1) 'x'), ?_, fun mem => ?_⟩
  · intro empty
    rw [empty] at isLong
    cases isLong
  · have bounded := short _ mem
    rw [isLong] at bounded
    exact absurd bounded (Nat.not_succ_le_self _)

lemma sameSettings_of_rows
    (same : ∀ lib unified file contents, fileRows (plainEnv lib) first unified file contents =
      fileRows (plainEnv lib) second unified file contents) : SameSettings first second := by
  have columns (name : String) : first.selects name = second.selects name := by
    have rows := same (oneRecord (fun _ _ => []) "" fun _ => "") (oneColumn name)
      ⟨"in.parquet", .parquet⟩ []
    rw [fileRows_parquet, fileRows_parquet] at rows
    cases isFirst : first.selects name <;> cases isSecond : second.selects name
    all_goals simp [isFirst, isSecond] at rows ⊢
  have headers : first.noHeaders = second.noHeaders := by
    have rows := same (oneRecord (fun _ _ => []) "" fun _ => "") (oneColumn "") ⟨"in.csv", .csv⟩ []
    rw [fileRows_csv_empty rfl, fileRows_csv_empty rfl] at rows
    cases isFirst : first.noHeaders <;> cases isSecond : second.noHeaders
    all_goals simp [isFirst, isSecond] at rows ⊢
  refine ⟨columns, headers, fun readable => ?_, fun ⟨name, reads⟩ => ?_⟩
  · by_contra differ
    -- a file that the first options cannot read
    let records (delimiter quote : UInt8) : List (Except String (List Bytes)) :=
      if delimiter = first.delimiterByte ∧ quote = first.quoteByte then [.error ""]
      else if first.noHeaders then [.ok (replicate 1 [])] else []
    have unread (unified : UnifiedSchema) : fileRows (plainEnv (oneRecord records "" fun _ => ""))
        first unified ⟨"in.csv", .csv⟩ [] = none := by
      refine fileRows_csv_error (if_pos ⟨rfl, rfl⟩)
    have isOther : (oneRecord records "" fun _ => "").csvRecords second.delimiterByte
        second.quoteByte [] = if first.noHeaders then [.ok (replicate 1 [])] else [] :=
      if_neg fun equal => differ ⟨equal.1.symm, equal.2.symm⟩
    cases unnamed : first.noHeaders with
    | false =>
      rw [unnamed] at isOther
      have rows := same (oneRecord records "" fun _ => "") (oneColumn "") ⟨"in.csv", .csv⟩ []
      rw [unread, fileRows_csv_empty isOther, ← headers, unnamed] at rows
      cases rows
    | true =>
      rw [unnamed] at isOther
      obtain ⟨name, selected⟩ := readable.resolve_right (by simp [unnamed])
      have rows := same (oneRecord records "" fun _ => "") (oneColumn name) ⟨"in.csv", .csv⟩ []
      rw [unread, fileRows_unnamed rfl (headers.symm.trans unnamed)
        ((columns name).symm.trans selected) isOther] at rows
      cases rows
  · obtain ⟨records, shows⟩ := exists_records reads
    have texts (decode : Encoding → String) : first.textOf (decode (encodingOf first.encoding)) =
          second.textOf (decode (encodingOf second.encoding)) := by
      have rows := same (oneRecord (fun _ _ => records) name decode) (oneColumn name)
        ⟨"in.csv", .csv⟩ []
      rw [shows first decode rfl reads.1,
        shows second decode headers.symm ((columns name).symm.trans reads.1)] at rows
      have cells := (cons.inj (cons.inj (Option.some.inj rows)).1).1
      exact map_injective (fun _ _ => Scalar.utf8.inj) cells
    have na (text : String) : first.textOf text = second.textOf text := texts fun _ => text
    constructor
    · by_contra differ
      obtain ⟨text, nonempty, fresh⟩ := exists_fresh_text second.csvConfig.naValues
      have decoded := texts fun encoding =>
        if encoding = encodingOf second.encoding then text else ""
      have shown : second.textOf text = some text :=
        if_neg fun contained => fresh (contains_iff_mem.mp contained)
      rw [if_neg differ, if_pos rfl, shown, Cli.textOf] at decoded
      split at decoded
      · cases decoded
      · exact nonempty (Option.some.inj decoded).symm
    · intro _
      rw [← textOf_eq_none, ← textOf_eq_none, na]

end

/-- A resumed run uses the original options exactly if those that are not recorded agree, too. -/
theorem usesOriginalOptions_iff {statePath : String} (isState : first.state = some statePath) :
    UsesOriginalOptions first second ↔ (SameRecorded first second → SameSettings first second) := by
  constructor
  · intro uses recorded
    exact sameSettings_of_rows (fileRows_of_uses isState uses recorded)
  · intro settings _ _ _ _ _ _ _ _ _ _ mayAsk isSecond
      accepted file _ contents
    have recorded := sameRecorded_of_accepted mayAsk isSecond accepted
    have agree : SameRecorded first second :=
      ⟨recorded.policy, recorded.compression, recorded.batchSize⟩
    exact fileRows_eq agree (settings agree)

/-! ## A delimiter that is not recorded -/

namespace Reference

def asciiText (bytes : Bytes) : String :=
  String.ofList (bytes.map fun byte => Char.ofNat byte.toNat)

def asciiBytes (text : String) : Bytes := text.toList.map asU8

/-- A CSV reader that knows no quotes. -/
def plainCsv : Library where
  csvRecords := fun delimiter _ contents =>
    ((contents.splitOn 10).filter (· ≠ [])).map fun line => .ok (line.splitOn delimiter)
  headerText := fun field => .ok (asciiText field)
  decode := fun _ field => asciiText field
  csvLine := fun texts => asciiBytes (String.intercalate "," texts ++ "\n")
  fromUtf8Lossy := id
  readParquet := fun _ _ => .error "not a Parquet file"
  created := []
  writeParquet := fun _ _ _ => .ok []
  numbers := silentNumbers

/-- Default options, with a checkpoint. -/
def defaults : Cli where
  delimiter := none
  quote := none
  noHeaders := false
  encoding := "utf8"
  na := "NA,null,\\N"
  columns := none
  exclude := none
  stringifyConflicts := false
  schemaConflicts := "strict"
  inferRows := 1000
  compression := .none
  zstdLevel := 3
  state := some "/work/state.json"
  resume := false

theorem rows_of_processOneFile_csv : ∃ total rows, fileRows (plainEnv plainCsv) defaults
      (oneColumn "a") ⟨"t.csv", .csv⟩ (asciiBytes "a\n1\n") = some rows ∧ total = rows.length := by
  obtain ⟨total, _, returns, -⟩ := @Fallible.exists_returns_of_eval _ _ _ _ _
    (Disk.service (StreamFile.data []))
    ⟨.singleton ["t.csv"] (.data (asciiBytes "a\n1\n")), []⟩
    (processOneFile (plainEnv plainCsv) defaults (oneColumn "a") .csv ⟨"t.csv", .csv⟩ "out.csv")
    (fun _ _ => true) (by decide +kernel)
  obtain ⟨_, rows, ⟨⟩, isRows, count⟩ := rows_of_processOneFile returns
  exact ⟨total, rows, isRows, count⟩

def semicolons : Cli := { defaults with delimiter := some ';', resume := true }

/-- The file has one column for a reader that splits at commas. -/
lemma semicolons_differ :
    fileRows (plainEnv plainCsv) defaults (oneColumn "a;b") ⟨"/in/t.csv", .csv⟩
        (asciiBytes "a;b\n1;2\n") = some [[some (.utf8 "1;2")]] ∧
      fileRows (plainEnv plainCsv) semicolons (oneColumn "a;b") ⟨"/in/t.csv", .csv⟩
        (asciiBytes "a;b\n1;2\n") = some [[none]] := by
  decide +kernel

/-- A run that splits at semicolons resumes a run that splits at commas. -/
theorem delimiter_not_recorded :
    SameRecorded defaults semicolons ∧ ¬ UsesOriginalOptions defaults semicolons := by
  have recorded : SameRecorded defaults semicolons := ⟨rfl, rfl, rfl⟩
  refine ⟨recorded, fun uses => ?_⟩
  have same := fileRows_of_uses rfl uses recorded plainCsv (oneColumn "a;b") ⟨"/in/t.csv", .csv⟩
    (asciiBytes "a;b\n1;2\n")
  rw [semicolons_differ.1, semicolons_differ.2] at same
  cases same

/-- The level of a compression has no effect on rows. -/
def otherLevel : Cli := { defaults with zstdLevel := 19, resume := true }

theorem resumed_with_other_level : UsesOriginalOptions defaults otherLevel :=
  (usesOriginalOptions_iff rfl).mpr fun _ =>
    ⟨fun _ => rfl, rfl, fun _ => ⟨rfl, rfl⟩, fun _ => ⟨rfl, fun _ => Iff.rfl⟩⟩

end Reference

end Parqonaut.Resumable
