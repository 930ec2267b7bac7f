import Mathlib.Algebra.Order.BigOperators.Group.List
import Mathlib.Algebra.Order.Ring.Nat
import Parqonaut.Storage.ParquetSink

/-!
# Conversions

`Pipeline::process_files_concurrently` of `pipeline.rs` and `run_convert_pipeline` of
`storage_convert.rs`. A reader for each input file sends its aligned batches to a channel; a
writer takes them and finishes the output, a local file or a remote object, when no sender is
left. The first function returns as soon as it joins a reader that failed; the second one waits
for the writer too.
-/

namespace Parqonaut.Stream

open Columnar Effects Storage

/-- Capacity of the channel from the readers to the writer. -/
def BATCH_CHANNEL : Nat := 8

inductive OutputFormat where
  | csv
  | parquet

/-! ## Readers -/

/-- Unified schema, and how the columns of a batch are coerced to it. -/
structure BatchAligner (Schema Row Raw : Type) where
  schema : Schema
  coerce : Raw → Except String (List Row)

variable {Schema Row Raw : Type}

def BatchAligner.alignBatchWithSource (aligner : BatchAligner Schema Row Raw) (batch : Raw) :
    Except String (RecordBatch Schema Row) :=
  (aligner.coerce batch).map fun rows => ⟨aligner.schema, rows⟩

/-- What opening a file and the calls of `read_batch` yield, up to the end of the file. -/
abbrev InputFile (Raw : Type) : Type := List (Except String Raw)

inductive ReadFailure where
  | read (message : String)
  | align (message : String)

inductive ReaderPhase (Schema Row Raw : Type) where
  | reading (rest : InputFile Raw)
  | sending (batch : RecordBatch Schema Row) (rest : InputFile Raw)
  | ended (result : Except ReadFailure Unit)

/-- `read_batch` and the alignment of what it returned. -/
def readAligned (aligner : BatchAligner Schema Row Raw) :
    Except String Raw → Except ReadFailure (RecordBatch Schema Row)
  | .error message => .error (.read message)
  | .ok batch => (aligner.alignBatchWithSource batch).mapError .align

def readerStep (aligner : BatchAligner Schema Row Raw) :
    ReaderPhase Schema Row Raw → Channel (RecordBatch Schema Row) →
      Option (ReaderPhase Schema Row Raw × Channel (RecordBatch Schema Row))
  | .reading [], channel => some (.ended (.ok ()), channel.dropSender)
  | .reading (item :: rest), channel =>
    match readAligned aligner item with
    | .error failure => some (.ended (.error failure), channel.dropSender)
    | .ok batch => some (.sending batch rest, channel)
  | .sending batch rest, channel =>
    (channel.send batch).map fun (sent, after) =>
      -- without a receiver the loop is left, and the reader ends without an error
      if sent then (.reading rest, after) else (.ended (.ok ()), channel.dropSender)
  | .ended _, _ => none

/-! ## Writers -/

/-- A writer task, its end of the channel, and its output. An error of the task is given by
its text. -/
structure WriterSystem (Batch : Type) where
  State : Type
  initial : Channel Batch → State
  channel : State → Channel Batch
  withChannel : State → Channel Batch → State
  Step : State → State → Prop
  result : State → Option (Except String Unit)
  /-- The writer has finished the output, and it holds these batches. -/
  Finalized : State → List Batch → Prop

/-- File at the output path. -/
inductive FileState (Batch : Type) where
  | before
  | unfinished (batches : List Batch)
  | finalized (batches : List Batch)

inductive FileWriterPhase (Batch : Type) where
  | creating
  | starting
  | receiving (written : List Batch)
  | ended (result : Except String Unit)

structure FileWriter (Batch : Type) where
  phase : FileWriterPhase Batch
  channel : Channel Batch
  file : FileState Batch

namespace FileWriter

variable {Batch : Type}

/-- The task ends and drops its end of the channel. -/
def finish (writer : FileWriter Batch) (result : Except String Unit) : FileWriter Batch :=
  { writer with phase := .ended result, channel := writer.channel.dropReceiver }

/-- Writer of `spawn_writer` and `write_output`. Creating the file empties it; only the Parquet
writer can fail at its start and end. -/
def step (format : OutputFormat) (event : SinkEvent) (writer : FileWriter Batch) :
    Option (FileWriter Batch) :=
  match writer.phase with
  | .creating =>
    match event with
    | .proceed => some { writer with phase := .starting, file := .unfinished [] }
    | .fail message => some (writer.finish (.error message))
  | .starting =>
    match event, format with
    | .fail message, .parquet => some (writer.finish (.error message))
    | _, _ => some { writer with phase := .receiving [] }
  | .receiving written =>
    writer.channel.receive.map fun (batch, channel) =>
      let writer := { writer with channel := channel }
      match batch, event, format with
      | some _, .fail message, _ => writer.finish (.error message)
      | some batch, .proceed, _ =>
        { writer with
          phase := .receiving (written ++ [batch])
          file := .unfinished (written ++ [batch]) }
      | none, .fail message, .parquet => writer.finish (.error message)
      | none, _, _ => { writer.finish (.ok ()) with file := .finalized written }
  | .ended _ => none

end FileWriter

def fileWriter (Batch : Type) (format : OutputFormat) : WriterSystem Batch where
  State := FileWriter Batch
  initial := fun channel => ⟨.creating, channel, .before⟩
  channel := (·.channel)
  withChannel := fun writer channel => { writer with channel := channel }
  Step := fun before after => ∃ event, before.step format event = some after
  result := fun writer => match writer.phase with
    | .ended result => some result
    | _ => none
  Finalized := fun writer batches => writer.file = .finalized batches

/-- Pull from the channel of the readers. -/
def pullChannel (channel : Channel (RecordBatch Schema Row)) :
    Option (Option (StreamItem Schema Row) × Channel (RecordBatch Schema Row)) :=
  channel.receive.map fun (batch, rest) => (batch.map .ok, rest)

/-- `write_remote_parquet`: the location is parsed, then the sink writes the stream of the
channel. -/
inductive RemoteWriter (Schema Row : Type) where
  | locating (channel : Channel (RecordBatch Schema Row))
  | unlocated (channel : Channel (RecordBatch Schema Row)) (message : String)
  | writing (sink : SinkState Schema Row (Channel (RecordBatch Schema Row)))

namespace RemoteWriter

def channel : RemoteWriter Schema Row → Channel (RecordBatch Schema Row)
  | .locating channel | .unlocated channel _ => channel
  | .writing sink => sink.shared.source

def withChannel (writer : RemoteWriter Schema Row) (channel : Channel (RecordBatch Schema Row)) :
    RemoteWriter Schema Row :=
  match writer with
  | .locating _ => .locating channel
  | .unlocated _ message => .unlocated channel message
  | .writing sink => .writing { sink with shared := { sink.shared with source := channel } }

inductive Step [DecidableEq Schema] (setup : SinkSetup Schema Row) (destination : Destination) :
    RemoteWriter Schema Row → RemoteWriter Schema Row → Prop where
  | unlocated {channel message} :
      Step setup destination (.locating channel) (.unlocated channel.dropReceiver message)
  | located {channel} :
      Step setup destination (.locating channel) (.writing (.initial channel destination))
  | sink {before after} (steps : SinkStep setup pullChannel before after) :
      Step setup destination (.writing before) (.writing after)
  /-- The stream goes away with the caller of the sink. -/
  | release {result encoder upload shared} :
      Step setup destination (.writing ⟨.returned result, encoder, upload, shared⟩)
        (.writing ⟨.returned result, encoder, upload,
          { shared with source := shared.source.dropReceiver }⟩)

def result : RemoteWriter Schema Row → Option (Except String Unit)
  | .locating _ => none
  | .unlocated _ message => some (.error message)
  | .writing sink => match sink.caller with
      | .returned (.ok summary) =>
        if summary.rowsWritten = 0 then
          some (.error "Invalid input: remote convert wrote no rows")
        else some (.ok ())
      | .returned (.error failure) => some (.error ("Parquet error: " ++ failure.error.display))
      | _ => none

end RemoteWriter

def remoteWriter [DecidableEq Schema] (setup : SinkSetup Schema Row) (destination : Destination) :
    WriterSystem (RecordBatch Schema Row) where
  State := RemoteWriter Schema Row
  initial := .locating
  channel := RemoteWriter.channel
  withChannel := RemoteWriter.withChannel
  Step := RemoteWriter.Step setup destination
  result := RemoteWriter.result
  Finalized := fun writer batches => ∃ sink, writer = .writing sink ∧
    sink.shared.destination = destination.write (setup.writer.file batches)

/-! ## Whole conversions -/

inductive ConvertFailure where
  | reader (failure : ReadFailure)
  | writer (message : String)

/-- The caller joins the readers in their order, then the writer. -/
inductive ConvertPhase where
  | joining (next : Nat)
  | joiningWriter (readers : Except ReadFailure Unit)
  | returned (result : Except ConvertFailure Unit)

structure ConvertState (Schema Row Raw : Type) (writers : WriterSystem (RecordBatch Schema Row)) where
  readers : List (ReaderPhase Schema Row Raw)
  writer : writers.State
  caller : ConvertPhase

/-- A reader failed: `process_files_concurrently` returns, `run_convert_pipeline` waits for
the writer. -/
def readerFailed (waits : Bool) (failure : ReadFailure) : ConvertPhase :=
  if waits then .joiningWriter (.error failure) else .returned (.error (.reader failure))

/-- Results of both sides; an error of the readers comes first. -/
def convertResult : Except ReadFailure Unit → Except String Unit → Except ConvertFailure Unit
  | .error failure, _ => .error (.reader failure)
  | .ok _, .error message => .error (.writer message)
  | .ok _, .ok _ => .ok ()

def convertStep (waits : Bool) (readers : List (ReaderPhase Schema Row Raw))
    (writer : Option (Except String Unit)) : ConvertPhase → Option ConvertPhase
  | .joining next =>
    match readers[next]? with
    | none => some (.joiningWriter (.ok ()))
    | some (.ended (.ok _)) => some (.joining (next + 1))
    | some (.ended (.error failure)) => some (readerFailed waits failure)
    | some _ => none
  | .joiningWriter read => writer.map fun written => .returned (convertResult read written)
  | .returned _ => none

inductive ConvertStep (aligner : BatchAligner Schema Row Raw)
    (writers : WriterSystem (RecordBatch Schema Row)) (waits : Bool) :
    ConvertState Schema Row Raw writers → ConvertState Schema Row Raw writers → Prop where
  | reader {before phase after writer caller phase' channel}
      (moves : readerStep aligner phase (writers.channel writer) = some (phase', channel)) :
      ConvertStep aligner writers waits ⟨before ++ phase :: after, writer, caller⟩
        ⟨before ++ phase' :: after, writers.withChannel writer channel, caller⟩
  | writer {readers writer writer' caller} (moves : writers.Step writer writer') :
      ConvertStep aligner writers waits ⟨readers, writer, caller⟩ ⟨readers, writer', caller⟩
  | caller {readers writer caller caller'}
      (moves : convertStep waits readers (writers.result writer) caller = some caller') :
      ConvertStep aligner writers waits ⟨readers, writer, caller⟩ ⟨readers, writer, caller'⟩

def ConvertState.initial (writers : WriterSystem (RecordBatch Schema Row))
    (files : List (InputFile Raw)) : ConvertState Schema Row Raw writers where
  readers := files.map .reading
  writer := writers.initial (.bounded BATCH_CHANNEL files.length)
  caller := .joining 0

/-- Conversions: `process_files_concurrently`, and `run_convert_pipeline` with a local
and with a remote output. -/
inductive Conversion (Schema Row : Type) where
  | processFilesConcurrently (format : OutputFormat)
  | convertLocal (format : OutputFormat)
  | convertRemote (writer : ArrowWriter (RecordBatch Schema Row)) (destination : Destination)

def Conversion.writers [DecidableEq Schema] (schema : Schema) :
    Conversion Schema Row → WriterSystem (RecordBatch Schema Row)
  | .processFilesConcurrently format | .convertLocal format => fileWriter _ format
  | .convertRemote writer destination => remoteWriter ⟨schema, writer⟩ destination

def Conversion.waits : Conversion Schema Row → Bool
  | .processFilesConcurrently _ => false
  | .convertLocal _ | .convertRemote _ _ => true

/-!
## Outputs of conversions with a reader that fails

A reader that fails drops its sender like one that is through, so the writer finishes the output
with the batches before. Whenever a read or an alignment fails there is a schedule in which the
caller returns the error and the output is a finalized file without the batches that could not be
read.
-/

open List RemoteWriter

open Relation (ReflTransGen)

variable {Schema Row Raw : Type} {written : List (RecordBatch Schema Row)}

/-! ## Writers that keep up -/

/-- A writer that can take every batch as it comes and then finish its output. -/
structure KeepsUp (schema : Schema) (writers : WriterSystem (RecordBatch Schema Row)) where
  idle : List (RecordBatch Schema Row) → Channel (RecordBatch Schema Row) → writers.State
  channel_idle : ∀ written channel, writers.channel (idle written channel) = channel
  withChannel_idle : ∀ written channel after,
    writers.withChannel (idle written channel) after = idle written after
  starts : ∀ channel, ReflTransGen writers.Step (writers.initial channel) (idle [] channel)
  takes : ∀ written (batch : RecordBatch Schema Row) capacity senders, batch.schema = schema →
    ReflTransGen writers.Step (idle written ⟨capacity, [batch], senders, true⟩)
      (idle (written ++ [batch]) ⟨capacity, [], senders, true⟩)
  closes : ∀ written capacity, ∃ state result,
    ReflTransGen writers.Step (idle written ⟨capacity, [], 0, true⟩) state ∧
      writers.result state = some result ∧ writers.Finalized state written

def fileWriter_keepsUp (schema : Schema) (format : OutputFormat) :
    KeepsUp schema (fileWriter (RecordBatch Schema Row) format) where
  idle := fun written channel => ⟨.receiving written, channel, .unfinished written⟩
  channel_idle := fun _ _ => rfl
  withChannel_idle := fun _ _ _ => rfl
  starts := fun _ => .head ⟨.proceed, rfl⟩ (.single ⟨.proceed, rfl⟩)
  takes := fun _ _ _ _ _ => .single ⟨.proceed, rfl⟩
  closes := fun _ _ => ⟨_, _, .single ⟨.proceed, rfl⟩, rfl, rfl⟩

section

variable [DecidableEq Schema] {setup : SinkSetup Schema Row} {destination : Destination}

def totalRows (batches : List (RecordBatch Schema Row)) : Nat :=
  (batches.map RecordBatch.numRows).sum

/-- Remote writer while its sink waits for the next batch. -/
def RemoteWriter.idle (setup : SinkSetup Schema Row) (destination : Destination)
    (written : List (RecordBatch Schema Row)) (channel : Channel (RecordBatch Schema Row)) :
    RemoteWriter Schema Row :=
  .writing (.idle setup channel (totalRows written) written destination)

lemma RemoteWriter.steps_sink
    {before after : SinkState Schema Row (Channel (RecordBatch Schema Row))}
    (runs : SinkRuns setup pullChannel before after) :
    ReflTransGen (Step setup destination) (.writing before) (.writing after) :=
  runs.lift writing fun _ _ => .sink

lemma RemoteWriter.takes
    {batch : RecordBatch Schema Row} {capacity senders : Nat} (valid : batch.schema = setup.schema) :
    ReflTransGen (Step setup destination)
      (.idle setup destination written ⟨capacity, [batch], senders, true⟩)
      (.idle setup destination (written ++ [batch]) ⟨capacity, [], senders, true⟩) := by
  have rows : totalRows (written ++ [batch]) = totalRows written + batch.numRows := by
    simp [totalRows]
  rw [idle, idle, rows]
  exact steps_sink (sinkRuns_batch rfl valid)

omit [DecidableEq Schema] in
lemma RemoteWriter.result_returned {result : Except SinkFailure WriteSummary}
    {encoder : EncoderPhase Schema Row} {upload : UploadPhase}
    {shared : SinkShared Schema Row (Channel (RecordBatch Schema Row))} :
    ∃ ended, (writing ⟨.returned result, encoder, upload, shared⟩).result =
      some ended := by
  cases result with
  | error => exact ⟨_, rfl⟩
  | ok =>
    dsimp only [result]
    split <;> exact ⟨_, rfl⟩

lemma RemoteWriter.closes {capacity : Nat} : ∃ state result, ReflTransGen (Step setup destination)
        (.idle setup destination written ⟨capacity, [], 0, true⟩) state ∧
      state.result = some result ∧ ∃ sink, state = .writing sink ∧
        sink.shared.destination = destination.write (setup.writer.file written) := by
  obtain ⟨shared, closes, -, encoded, uploaded, isWritten⟩ := sinkRuns_close setup pullChannel
  have ends : SinkRuns setup pullChannel
      (.idle setup ⟨capacity, [], 0, true⟩ (totalRows written) written destination)
      ⟨.joiningEncode (totalRows written), .ended, .ended, shared⟩ :=
    .head (.caller .proceed rfl) closes
  have joins : callerStep setup pullChannel .proceed (.joiningEncode (totalRows written)) shared =
      some (.joiningUpload (totalRows written), shared) := by
    rw [callerStep, encoded]
    rfl
  have returns : callerStep setup pullChannel .proceed (.joiningUpload (totalRows written)) shared =
      some (.returned (.ok ⟨totalRows written, (setup.writer.file written).length, 1⟩), shared) := by
    rw [callerStep, uploaded]
    rfl
  have runs := (ends.tail (.caller .proceed joins)).tail (.caller .proceed returns)
  obtain ⟨result, isResult⟩ := result_returned
  exact ⟨_, result, steps_sink runs, isResult, _, rfl, isWritten⟩

def remoteWriter_keepsUp (setup : SinkSetup Schema Row) (destination : Destination) :
    KeepsUp setup.schema (remoteWriter setup destination) where
  idle := idle setup destination
  channel_idle := fun _ _ => rfl
  withChannel_idle := fun _ _ _ => rfl
  starts := fun _ => .head .located (steps_sink sinkRuns_start)
  takes := fun _ _ _ _ valid => takes valid
  closes := fun _ _ => closes

end

def Conversion.keepsUp [DecidableEq Schema] (schema : Schema) :
    (conversion : Conversion Schema Row) → KeepsUp schema (conversion.writers schema)
  | .processFilesConcurrently format | .convertLocal format => fileWriter_keepsUp schema format
  | .convertRemote writer destination => remoteWriter_keepsUp ⟨schema, writer⟩ destination

/-! ## A schedule without waiting -/

section

variable {aligner : BatchAligner Schema Row Raw} {writers : WriterSystem (RecordBatch Schema Row)}
  {waits : Bool} {caller : ConvertPhase} {files : List (InputFile Raw)} {file : InputFile Raw}
  {item : Except String Raw}

/-- A run of readers, writer and caller, in any schedule. -/
abbrev ConvertRuns (aligner : BatchAligner Schema Row Raw)
    (writers : WriterSystem (RecordBatch Schema Row)) (waits : Bool) :
    ConvertState Schema Row Raw writers → ConvertState Schema Row Raw writers → Prop :=
  ReflTransGen (ConvertStep aligner writers waits)

/-- Batches that a reader can send before it ends. -/
def sentBatches (aligner : BatchAligner Schema Row Raw) :
    InputFile Raw → List (RecordBatch Schema Row)
  | [] => []
  | item :: rest => match readAligned aligner item with
      | .error _ => []
      | .ok batch => batch :: sentBatches aligner rest

/-- How a reader ends that can send all its batches. -/
def readResult (aligner : BatchAligner Schema Row Raw) : InputFile Raw → Except ReadFailure Unit
  | [] => .ok ()
  | item :: rest => match readAligned aligner item with
      | .error failure => .error failure
      | .ok _ => readResult aligner rest

lemma readAligned_schema {batch : RecordBatch Schema Row}
    (reads : readAligned aligner item = .ok batch) : batch.schema = aligner.schema := by
  cases item with
  | error => cases reads
  | ok raw =>
    rw [readAligned, BatchAligner.alignBatchWithSource] at reads
    cases coerced : aligner.coerce raw with
    | error =>
      rw [coerced] at reads
      cases reads
    | ok =>
      rw [coerced] at reads
      cases reads
      rfl

variable {readers : List (ReaderPhase Schema Row Raw)}

lemma ConvertRuns.ofWriter
    {before after : writers.State} (steps : ReflTransGen writers.Step before after) :
    ConvertRuns aligner writers waits ⟨readers, before, caller⟩ ⟨readers, after, caller⟩ :=
  steps.lift (fun writer => (⟨readers, writer, caller⟩ : ConvertState Schema Row Raw writers))
    fun _ _ => ConvertStep.writer

variable (keepsUp : KeepsUp aligner.schema writers)

variable {channel after : Channel (RecordBatch Schema Row)}
  {front back : List (ReaderPhase Schema Row Raw)} {phase phase' : ReaderPhase Schema Row Raw}

include keepsUp in
lemma ConvertStep.ofReader (moves : readerStep aligner phase channel = some (phase', after)) :
    ConvertStep aligner writers waits ⟨front ++ phase :: back, keepsUp.idle written channel, caller⟩
      ⟨front ++ phase' :: back, keepsUp.idle written after, caller⟩ := by
  rw [← keepsUp.withChannel_idle written channel after]
  apply ConvertStep.reader
  rw [keepsUp.channel_idle]
  exact moves

/-- A reader runs to its end while the writer takes its batches. -/
lemma convertRuns_reader {senders : Nat} (file : InputFile Raw) :
    ConvertRuns aligner writers waits ⟨front ++ .reading file :: back,
        keepsUp.idle written ⟨BATCH_CHANNEL, [], senders, true⟩, caller⟩
      ⟨front ++ .ended (readResult aligner file) :: back,
        keepsUp.idle (written ++ sentBatches aligner file)
          ⟨BATCH_CHANNEL, [], senders - 1, true⟩, caller⟩ := by
  induction file generalizing written with
  | nil =>
    rw [sentBatches, append_nil]
    exact .single (.ofReader keepsUp rfl)
  | cons item rest ih =>
    cases reads : readAligned aligner item with
    | error =>
      rw [sentBatches, readResult, reads, append_nil]
      refine .single (.ofReader keepsUp ?_)
      rw [readerStep, reads]
      rfl
    | ok batch =>
      have aligned : readerStep aligner (.reading (item :: rest))
          ⟨BATCH_CHANNEL, [], senders, true⟩ =
          some (.sending batch rest, ⟨BATCH_CHANNEL, [], senders, true⟩) := by
        rw [readerStep, reads]
      have taken := keepsUp.takes written batch BATCH_CHANNEL senders (readAligned_schema reads)
      rw [sentBatches, readResult, reads]
      dsimp only
      rw [append_cons written]
      exact .head (.ofReader keepsUp aligned) (.head (.ofReader keepsUp rfl)
        ((ConvertRuns.ofWriter taken).trans ih))

/-- All readers run to their ends, one after the other. -/
lemma convertRuns_readers (files : List (InputFile Raw)) :
    ConvertRuns aligner writers waits ⟨front ++ files.map .reading,
        keepsUp.idle written ⟨BATCH_CHANNEL, [], files.length, true⟩, caller⟩
      ⟨front ++ files.map fun file => .ended (readResult aligner file),
        keepsUp.idle (written ++ files.flatMap (sentBatches aligner))
          ⟨BATCH_CHANNEL, [], 0, true⟩, caller⟩ := by
  induction files generalizing front written with
  | nil =>
    rw [flatMap_nil, append_nil]
    exact .refl
  | cons file _ ih =>
    rw [flatMap_cons, ← append_assoc, map_cons, map_cons, append_cons front (.ended _)]
    refine (convertRuns_reader keepsUp file).trans ?_
    rw [append_cons front (.ended _)]
    exact ih

/-- The caller joins readers that are through until it comes to one that failed. -/
lemma convertRuns_joins {writer : writers.State} (results : List (Except ReadFailure Unit))
    (failed : ∃ failure, .error failure ∈ results) :
    ∃ failure, ConvertRuns aligner writers waits
      ⟨front ++ results.map .ended, writer, .joining front.length⟩
      ⟨front ++ results.map .ended, writer, readerFailed waits failure⟩ := by
  induction results generalizing front with
  | nil =>
    obtain ⟨failure, mem⟩ := failed
    cases mem
  | cons result rest ih =>
    have joined : (front ++ (result :: rest).map ReaderPhase.ended)[front.length]? =
        (some (.ended result) : Option (ReaderPhase Schema Row Raw)) := by
      rw [map_cons, List.getElem?_append_right (Nat.le_refl _), Nat.sub_self]
      rfl
    cases result with
    | error failure =>
      refine ⟨failure, .single (.caller ?_)⟩
      rw [convertStep, joined]
    | ok =>
      have later : ∃ failure, .error failure ∈ rest := by
        obtain ⟨failure, mem⟩ := failed
        exact ⟨failure, (mem_cons.mp mem).resolve_left nofun⟩
      obtain ⟨failure, runs⟩ := @ih (front ++ [.ended (.ok ())]) later
      rw [length_append, ← append_cons] at runs
      refine ⟨failure, .head (.caller ?_) runs⟩
      rw [convertStep, joined]
      rfl

/-! ## Files that cannot be read -/

/-- The item can be read and aligned. -/
def readable (aligner : BatchAligner Schema Row Raw) (item : Except String Raw) : Bool :=
  (readAligned aligner item).toOption.isSome

/-- Batches of the input, the ones that cannot be read included. -/
def inputBatches (files : List (InputFile Raw)) : Nat := (files.map List.length).sum

lemma sentBatches_length_le (file : InputFile Raw) :
    (sentBatches aligner file).length ≤ file.length := by
  induction file with
  | nil => exact Nat.le_refl 0
  | cons item _ ih =>
    rw [sentBatches]
    cases readAligned aligner item with
    | error => exact Nat.zero_le _
    | ok => exact Nat.succ_le_succ ih

/-- A file with an item that cannot be read is not sent as a whole, and its reader fails. -/
lemma sentBatches_of_unreadable (mem : item ∈ file) (bad : readable aligner item = false) :
    (sentBatches aligner file).length < file.length ∧
      ∃ failure, readResult aligner file = .error failure := by
  induction file with
  | nil => cases mem
  | cons first _ ih =>
    rw [sentBatches, readResult]
    cases reads : readAligned aligner first with
    | error failure => exact ⟨Nat.zero_lt_succ _, failure, rfl⟩
    | ok =>
      rcases mem_cons.mp mem with rfl | mem
      · rw [readable, reads] at bad
        cases bad
      · obtain ⟨shorter, fails⟩ := ih mem
        exact ⟨Nat.succ_lt_succ shorter, fails⟩

lemma sent_lt_inputBatches (isFile : file ∈ files) (mem : item ∈ file)
    (bad : readable aligner item = false) :
    (files.flatMap (sentBatches aligner)).length < inputBatches files := by
  rw [length_flatMap, inputBatches]
  exact sum_lt_sum _ _ (fun file _ => sentBatches_length_le file)
    ⟨file, isFile, (sentBatches_of_unreadable mem bad).1⟩

include keepsUp in
/-- With a file that cannot be read, the caller can return a reader's error while the output is
finalized with fewer batches. -/
lemma convertRuns_truncated (isFile : file ∈ files) (mem : item ∈ file)
    (bad : readable aligner item = false) :
    ∃ state failure, ConvertRuns aligner writers waits (.initial writers files) state ∧
      state.caller = .returned (.error (.reader failure)) ∧
      writers.Finalized state.writer (files.flatMap (sentBatches aligner)) := by
  obtain ⟨writer, result, closes, isResult, finalized⟩ :=
    keepsUp.closes (files.flatMap (sentBatches aligner)) BATCH_CHANNEL
  have failed : ∃ failure, .error failure ∈ files.map (readResult aligner) := by
    obtain ⟨failure, fails⟩ := (sentBatches_of_unreadable mem bad).2
    exact ⟨failure, mem_map.mpr ⟨file, isFile, fails⟩⟩
  obtain ⟨failure, joins⟩ := @convertRuns_joins _ _ _ aligner writers waits [] writer _ failed
  have reads : ConvertRuns aligner writers waits (.initial writers files)
      ⟨[] ++ (files.map (readResult aligner)).map .ended, writer, .joining 0⟩ := by
    have reading := @convertRuns_readers _ _ _ [] aligner writers waits (.joining 0) keepsUp [] files
    rw [map_map]
    exact ((ConvertRuns.ofWriter (keepsUp.starts _)).trans reading).trans
      (ConvertRuns.ofWriter closes)
  have runs := reads.trans joins
  cases waits with
  | false => exact ⟨_, failure, runs, rfl, finalized⟩
  | true =>
    have returns : convertStep true ([] ++ (files.map (readResult aligner)).map
        (ReaderPhase.ended : _ → ReaderPhase Schema Row Raw)) (writers.result writer)
        (.joiningWriter (.error failure)) = some (.returned (.error (.reader failure))) := by
      rw [convertStep, isResult]
      rfl
    exact ⟨_, failure, runs.tail (.caller returns), rfl, finalized⟩

/-! ## Files that can be read -/

/-- What is left of the file of a reader can be read, and the reader has not failed. -/
def ReaderPhase.Sound (aligner : BatchAligner Schema Row Raw) : ReaderPhase Schema Row Raw → Prop
  | .reading rest | .sending _ rest => ∀ item ∈ rest, readable aligner item = true
  | .ended result => result = .ok ()

/-- The caller has not seen a reader fail. -/
def ConvertPhase.Sound : ConvertPhase → Prop
  | .joining _ => True
  | .joiningWriter read => read = .ok ()
  | .returned result => ∀ failure, result ≠ .error (.reader failure)

structure ConvertState.Sound (aligner : BatchAligner Schema Row Raw)
    (state : ConvertState Schema Row Raw writers) : Prop where
  readers : ∀ phase ∈ state.readers, phase.Sound aligner
  caller : state.caller.Sound

lemma readerStep_sound (sound : phase.Sound aligner)
    (moves : readerStep aligner phase channel = some (phase', after)) : phase'.Sound aligner := by
  cases phase with
  | reading rest =>
    cases rest with
    | nil =>
      cases moves
      rfl
    | cons item =>
      have reads := sound item mem_cons_self
      rw [readerStep] at moves
      rw [readable] at reads
      cases aligned : readAligned aligner item with
      | error =>
        rw [aligned] at reads
        cases reads
      | ok =>
        rw [aligned] at moves
        cases moves
        exact fun other mem => sound other (mem_cons_of_mem _ mem)
  | sending =>
    obtain ⟨⟨sent, _⟩, -, ended⟩ := Option.map_eq_some_iff.mp moves
    cases sent with
    | true =>
      cases ended
      exact sound
    | false =>
      cases ended
      rfl
  | ended => cases moves

lemma convertStep_sound {writer : Option (Except String Unit)} {phase phase' : ConvertPhase}
    (sound : ∀ reader ∈ readers, reader.Sound aligner) (caller : phase.Sound)
    (moves : convertStep waits readers writer phase = some phase') : phase'.Sound := by
  cases phase with
  | joining next =>
    rw [convertStep] at moves
    cases joined : readers[next]? with
    | none =>
      rw [joined] at moves
      cases moves
      rfl
    | some reader =>
      have readerSound := sound reader (mem_of_getElem? joined)
      rw [joined] at moves
      cases reader with
      | ended =>
        cases readerSound
        cases moves
        trivial
      | reading => cases moves
      | sending => cases moves
  | joiningWriter =>
    cases caller
    obtain ⟨written, -, ended⟩ := Option.map_eq_some_iff.mp moves
    cases written with
    | ok | error =>
      cases ended
      exact nofun
  | returned => cases moves

lemma ConvertStep.sound {before after : ConvertState Schema Row Raw writers}
    (step : ConvertStep aligner writers waits before after) (sound : before.Sound aligner) :
    after.Sound aligner := by
  cases step with
  | @reader front _ back _ caller _ _ moves =>
    refine ⟨?_, sound.caller⟩
    intro reader mem
    have others : ∀ reader ∈ front ++ back, reader.Sound aligner := by
      intro reader mem
      apply sound.readers
      rcases mem_append.mp mem with mem | mem
      · exact mem_append_left _ mem
      · exact mem_append_right _ (mem_cons_of_mem _ mem)
    rcases mem_append.mp mem with mem | mem
    · exact others reader (mem_append_left _ mem)
    · rcases mem_cons.mp mem with rfl | mem
      · exact readerStep_sound (sound.readers _ mem_append_cons_self) moves
      · exact others reader (mem_append_right _ mem)
  | writer => exact ⟨sound.readers, sound.caller⟩
  | caller moves => exact ⟨sound.readers, convertStep_sound sound.readers sound.caller moves⟩

lemma convertRuns_sound {state : ConvertState Schema Row Raw writers}
    (good : ∀ file ∈ files, ∀ item ∈ file, readable aligner item = true)
    (runs : ConvertRuns aligner writers waits (.initial writers files) state) :
    state.Sound aligner := by
  induction runs with
  | refl =>
    refine ⟨?_, trivial⟩
    intro _ mem
    obtain ⟨file, isFile, rfl⟩ := mem_map.mp mem
    exact good file isFile
  | tail _ step ih => exact step.sound ih

/-! ## Delivery of batches -/

/-- `log` takes from the fronts of the lists, one element after the other, and leaves these. -/
inductive Drains {α : Type} (lists : List (List α)) : List α → List (List α) → Prop where
  | start : Drains lists [] lists
  | next {log item rest front back} (earlier : Drains lists log (front ++ (item :: rest) :: back)) :
      Drains lists (log ++ [item]) (front ++ rest :: back)

/-- Batches that a reader has not sent. -/
def ReaderPhase.unsent (aligner : BatchAligner Schema Row Raw) :
    ReaderPhase Schema Row Raw → List (RecordBatch Schema Row)
  | .reading rest => sentBatches aligner rest
  | .sending batch rest => batch :: sentBatches aligner rest
  | .ended _ => []

def ReaderPhase.senders : ReaderPhase Schema Row Raw → Nat
  | .reading _ | .sending .. => 1
  | .ended _ => 0

/-- What a writer has received that has not ended. -/
def FileWriterPhase.received {Batch : Type} : FileWriterPhase Batch → Option (List Batch)
  | .creating | .starting => some []
  | .receiving written => some written
  | .ended _ => none

variable (aligner files readers) {received : List (RecordBatch Schema Row)} {format : OutputFormat}

/-- The batches are on their way: received, in the channel or still to be sent. -/
structure Underway (channel : Channel (RecordBatch Schema Row))
    (received : List (RecordBatch Schema Row)) : Prop where
  drains : Drains (files.map (sentBatches aligner)) (received ++ channel.queue)
    (readers.map (·.unsent aligner))
  senders : channel.senders = (readers.map (·.senders)).sum
  receiver : channel.receiver = true

/-- The readers are through, and the batches of every file have arrived in their order. -/
structure Delivered (batches : List (RecordBatch Schema Row)) : Prop where
  ended : ∀ reader ∈ readers, ∃ result, reader = .ended result
  drains : Drains (files.map (sentBatches aligner)) batches (readers.map fun _ => [])

structure Delivers (writer : FileWriter (RecordBatch Schema Row)) : Prop where
  underway : ∀ received, writer.phase.received = some received →
    Underway aligner files readers writer.channel received
  delivered : ∀ batches, writer.file = .finalized batches →
    Delivered aligner files readers batches

variable {aligner files readers}

/-- A step of a reader while there is a receiver. -/
lemma readerStep_moves (receiver : channel.receiver = true)
    (moves : readerStep aligner phase channel = some (phase', after)) :
    phase.senders = 1 ∧ after.receiver = true ∧
      (0 < channel.senders → after.senders + 1 = channel.senders + phase'.senders) ∧
      (phase'.unsent aligner = phase.unsent aligner ∧ after.queue = channel.queue ∨
        ∃ batch, phase.unsent aligner = batch :: phase'.unsent aligner ∧
          after.queue = channel.queue ++ [batch]) := by
  fun_cases readerStep aligner phase channel <;>
    grind [readerStep, ReaderPhase.senders, ReaderPhase.unsent, Channel.send, Channel.dropSender,
      sentBatches]

lemma Underway.reader (underway : Underway aligner files (front ++ phase :: back) channel received)
    (moves : readerStep aligner phase channel = some (phase', after)) :
    Underway aligner files (front ++ phase' :: back) after received := by
  obtain ⟨drains, counted, receiver⟩ := underway
  obtain ⟨live, receiver, senders, sends⟩ := readerStep_moves receiver moves
  refine ⟨?_, ?_, receiver⟩
  · rcases sends with ⟨same, queue⟩ | ⟨batch, sent, queue⟩
    · simpa [queue, same] using drains
    · rw [map_append, map_cons, sent] at drains
      simpa [queue] using drains.next
  · simp only [map_append, map_cons, sum_append, sum_cons, live] at counted ⊢
    omega

lemma Underway.receive {batch : RecordBatch Schema Row}
    (underway : Underway aligner files readers channel received)
    (receives : channel.receive = some (some batch, after)) :
    Underway aligner files readers after (received ++ [batch]) := by
  obtain ⟨drains, senders, receiver⟩ := underway
  rcases channel with ⟨_, _ | ⟨_, queue⟩, _, _⟩
  · grind [Channel.receive]
  · cases receives
    exact ⟨append_cons .. ▸ drains, senders, receiver⟩

/-- The writer sees the end of the batches when the readers are through. -/
lemma Underway.finish (underway : Underway aligner files readers channel received)
    (receives : channel.receive = some (none, after)) :
    Delivered aligner files readers received := by
  obtain ⟨drains, senders, -⟩ := underway
  obtain ⟨queue, none⟩ : channel.queue = [] ∧ channel.senders = 0 := by
    grind [Channel.receive]
  have ended : ∀ reader ∈ readers, ∃ result, reader = .ended result := by
    intro reader mem
    have idle := sum_eq_zero_iff.mp (senders.symm.trans none) _ (mem_map_of_mem mem)
    cases reader with
    | ended result => exact ⟨result, rfl⟩
    | reading | sending => cases idle
  refine ⟨ended, ?_⟩
  rw [queue, append_nil] at drains
  convert drains using 1
  refine map_congr_left fun reader mem => ?_
  obtain ⟨_, rfl⟩ := ended reader mem
  rfl

lemma Delivers.writer {event : SinkEvent} {writer next : FileWriter (RecordBatch Schema Row)}
    (delivers : Delivers aligner files readers writer)
    (moves : writer.step format event = some next) : Delivers aligner files readers next := by
  obtain ⟨underway, delivered⟩ := delivers
  rcases writer with ⟨phase, _, _⟩
  cases phase with
  | creating | starting =>
    cases event <;> cases format <;> cases moves
    all_goals
      first | exact ⟨underway, delivered⟩ | exact ⟨underway, nofun⟩ | exact ⟨nofun, delivered⟩
  | receiving written =>
    obtain ⟨⟨batch, _⟩, receives, moved⟩ := Option.map_eq_some_iff.mp moves
    have underway := underway written rfl
    cases batch with
    | some =>
      have taken := underway.receive receives
      cases event <;> cases moved
      · exact ⟨fun _ same => Option.some.inj same ▸ taken, nofun⟩
      · exact ⟨nofun, delivered⟩
    | none =>
      have done := underway.finish receives
      cases event <;> cases format <;> cases moved
      all_goals first
        | exact ⟨nofun, fun _ same => FileState.finalized.inj same ▸ done⟩
        | exact ⟨nofun, delivered⟩
  | ended => cases moves

/-- In every schedule of the readers and the writer, a finished output of a local conversion holds
the batches of each file in their order and each of them once. -/
theorem conversion_delivers {state : ConvertState Schema Row Raw (fileWriter _ format)}
    (runs : ConvertRuns aligner (fileWriter _ format) waits (.initial _ files) state) :
    Delivers aligner files state.readers state.writer := by
  induction runs with
  | refl =>
    refine ⟨?_, nofun⟩
    rintro _ ⟨⟩
    refine ⟨?_, ?_, rfl⟩
    · rw [ConvertState.initial, map_map]
      exact .start
    · simp [ConvertState.initial, Function.comp_def, ReaderPhase.senders, fileWriter,
        Channel.bounded]
  | tail _ step ih =>
    cases step with
    | reader moves =>
      refine ⟨fun received same => (ih.underway received same).reader moves, ?_⟩
      intro batches same
      obtain ⟨_, rfl⟩ := (ih.delivered batches same).ended _ mem_append_cons_self
      cases moves
    | writer moves =>
      obtain ⟨_, moves⟩ := moves
      exact ih.writer moves
    | caller => exact ih

end

/-- After a conversion has returned the error of a reader, its output is not a finalized file with
fewer batches than the input: in every schedule exactly for the lists of files that can all be read
and aligned, so that no reader fails. -/
theorem failed_conversion_not_truncated_iff [DecidableEq Schema]
    (aligner : BatchAligner Schema Row Raw) (conversion : Conversion Schema Row)
    (files : List (InputFile Raw)) :
    (∀ state failure batches,
        ConvertRuns aligner (conversion.writers aligner.schema) conversion.waits
          (.initial _ files) state →
        state.caller = .returned (.error (.reader failure)) →
        (conversion.writers aligner.schema).Finalized state.writer batches →
        ¬ batches.length < inputBatches files) ↔
      ∀ file ∈ files, ∀ item ∈ file, readable aligner item = true := by
  constructor
  · intro complete _ isFile item mem
    cases reads : readable aligner item with
    | true => rfl
    | false =>
      obtain ⟨state, failure, runs, returned, finalized⟩ :=
        convertRuns_truncated (conversion.keepsUp aligner.schema) isFile mem reads
      exact absurd (sent_lt_inputBatches isFile mem reads)
        (complete state failure _ runs returned finalized)
  · intro good _ failure _ runs returned
    have sound := (convertRuns_sound good runs).caller
    rw [returned] at sound
    exact absurd rfl (sound failure)

/-! ## A file that breaks off -/

namespace Reference

def aligner : BatchAligner String String (List String) where
  schema := "id: int64"
  coerce := .ok

/-- The first file cannot be read beyond its first batch. -/
def files : List (InputFile (List String)) :=
  [[.ok ["1", "2"], .error "corrupt page"], [.ok ["3"]]]

/-- `process_files_concurrently` returns the error of the reader, and the output is a
finalized Parquet file with two of the three batches. -/
theorem failed_read_truncates_output :
    (∃ state failure, ConvertRuns aligner (fileWriter _ .parquet) false (.initial _ files) state ∧
        state.caller = .returned (.error (.reader failure)) ∧
        (fileWriter _ .parquet).Finalized state.writer
          [⟨"id: int64", ["1", "2"]⟩, ⟨"id: int64", ["3"]⟩]) ∧
      inputBatches files = 3 :=
  ⟨convertRuns_truncated (fileWriter_keepsUp _ .parquet) mem_cons_self
    (mem_cons_of_mem _ mem_cons_self) rfl, rfl⟩

theorem conversion_delivers_finalized : ∃ readers : List (ReaderPhase String String (List String)),
    ∃ writer, writer.file = .finalized [⟨"id: int64", ["1", "2"]⟩, ⟨"id: int64", ["3"]⟩] ∧
      Delivers aligner files readers writer := by
  obtain ⟨_, _, runs, -, finalized⟩ := @convertRuns_truncated _ _ _ aligner _ false files _ _
    (fileWriter_keepsUp _ .parquet) mem_cons_self (mem_cons_of_mem _ mem_cons_self) rfl
  exact ⟨_, _, finalized, conversion_delivers runs⟩

end Reference

end Parqonaut.Stream
