import Mathlib.Logic.Relation
import Parqonaut.Columnar.Batch
import Parqonaut.Effects.Channel

/-!
# The Parquet sink

`write_stream_async` of `columnar/sink.rs`. The caller sends the batches of a stream to an encoder
task; the encoder sends the bytes of the Parquet file to an upload task, which finishes the object
when no more bytes come. When the caller returns early, the tasks go on.

A pull from the stream without a result has to wait. Each call that can fail does so when its
event says so.
-/

namespace Parqonaut.Storage

open Columnar Effects

def BATCH_QUEUE : Nat := 8
def BYTE_CHUNK_QUEUE : Nat := 8

/-- Calls of `Write::write` by an `ArrowWriter`: when it is created, for a batch after those it has
seen, and when it is closed. -/
structure ArrowWriter (Batch : Type) where
  header : List (List UInt8)
  body : List Batch → Batch → List (List UInt8)
  footer : List Batch → List (List UInt8)

namespace ArrowWriter

variable {Batch : Type}

/-- Bytes of some batches after others. -/
def bodies (writer : ArrowWriter Batch) (seen : List Batch) : List Batch → List UInt8
  | [] => []
  | batch :: rest => (writer.body seen batch).flatten ++ writer.bodies (seen ++ [batch]) rest

/-- Bytes before the footer. -/
def content (writer : ArrowWriter Batch) (batches : List Batch) : List UInt8 :=
  writer.header.flatten ++ writer.bodies [] batches

/-- The Parquet file of some batches. -/
def file (writer : ArrowWriter Batch) (batches : List Batch) : List UInt8 :=
  writer.content batches ++ (writer.footer batches).flatten

lemma bodies_append (writer : ArrowWriter Batch) (seen batches : List Batch) (batch : Batch) :
    writer.bodies seen (batches ++ [batch]) =
      writer.bodies seen batches ++ (writer.body (seen ++ batches) batch).flatten := by
  induction batches generalizing seen with
  | nil => simp [bodies]
  | cons _ _ ih =>
    rw [List.cons_append, bodies, bodies, ih, List.append_assoc, List.append_assoc,
      List.singleton_append]

lemma content_append (writer : ArrowWriter Batch) (batches : List Batch) (batch : Batch) :
    writer.content (batches ++ [batch]) =
      writer.content batches ++ (writer.body batches batch).flatten := by
  rw [content, bodies_append, List.nil_append, content, List.append_assoc]

end ArrowWriter

/-- Destination object, and how often it has been written. -/
structure Destination where
  object : Option (List UInt8)
  generation : Nat

def Destination.write (destination : Destination) (bytes : List UInt8) : Destination :=
  ⟨some bytes, destination.generation + 1⟩

/-! ## Tasks -/

variable {Schema Row Source : Type}

structure SinkSetup (Schema Row : Type) where
  schema : Schema
  writer : ArrowWriter (RecordBatch Schema Row)

/-- Why the caller returned an error. -/
inductive SinkFailure where
  | openStream (error : ColumnarError)
  | item (error : ColumnarError)
  | invalid (error : ColumnarError)
  | encoderStopped
  | encode (error : ColumnarError)
  | upload (error : ColumnarError)

/-- Error that is returned. -/
def SinkFailure.error : SinkFailure → ColumnarError
  | .openStream error | .item error | .invalid error | .encode error | .upload error => error
  | .encoderStopped => .other "parquet encoder task stopped"

/-- The stream yielded an error or a batch that does not pass `validate_batch`. -/
def SinkFailure.fromStream : SinkFailure → Bool
  | .item _ | .invalid _ => true
  | .openStream _ | .encoderStopped | .encode _ | .upload _ => false

inductive CallerPhase (Schema Row : Type) where
  | opening
  | streaming (rowsWritten : Nat)
  | sending (batch : RecordBatch Schema Row) (rowsWritten : Nat)
  | joiningEncode (rowsWritten : Nat)
  | joiningUpload (rowsWritten : Nat)
  | returned (result : Except SinkFailure WriteSummary)

/-- Encoder, with the batches that it has written. -/
inductive EncoderPhase (Schema Row : Type) where
  | starting
  | sending (written : List (RecordBatch Schema Row)) (chunks : List (List UInt8)) (closing : Bool)
  | receiving (written : List (RecordBatch Schema Row))
  | ended

/-- Upload, with the bytes that it has written to the object stream. -/
inductive UploadPhase where
  | unspawned
  | receiving (bytes : List UInt8)
  | ended

/-- What the tasks share. -/
structure SinkShared (Schema Row Source : Type) where
  source : Source
  batches : Channel (RecordBatch Schema Row)
  chunks : Channel (List UInt8)
  opened : Bool
  encoded : Option (Except ColumnarError Unit)
  uploaded : Option (Except ColumnarError Nat)
  destination : Destination

/-- Whether the call that a task makes succeeds. -/
inductive SinkEvent where
  | proceed
  | fail (message : String)

/-- The caller returns early. -/
def failCaller (failure : SinkFailure) (shared : SinkShared Schema Row Source) :
    CallerPhase Schema Row × SinkShared Schema Row Source :=
  (.returned (.error failure), { shared with batches := shared.batches.dropSender })

variable [DecidableEq Schema]

/-- The stream has yielded a batch. -/
def acceptBatch (setup : SinkSetup Schema Row) (rowsWritten : Nat)
    (batch : RecordBatch Schema Row) (shared : SinkShared Schema Row Source) :
    CallerPhase Schema Row × SinkShared Schema Row Source :=
  match validateBatch setup.schema batch with
  | .error error => failCaller (.invalid error) shared
  | .ok _ => (.sending batch (rowsWritten + batch.numRows), shared)

variable {setup : SinkSetup Schema Row} {rowsWritten : Nat} {batch : RecordBatch Schema Row}
  {shared : SinkShared Schema Row Source}

lemma acceptBatch_of_valid (valid : batch.schema = setup.schema) :
    acceptBatch setup rowsWritten batch shared =
      (.sending batch (rowsWritten + batch.numRows), shared) := by
  rw [acceptBatch, validateBatch, if_neg (not_not_intro valid)]

lemma acceptBatch_of_invalid (invalid : batch.schema ≠ setup.schema) :
    ∃ error, acceptBatch setup rowsWritten batch shared = failCaller (.invalid error) shared := by
  rw [acceptBatch, validateBatch, if_pos invalid]
  exact ⟨_, rfl⟩

def callerStep (setup : SinkSetup Schema Row)
    (pull : Source → Option (Option (StreamItem Schema Row) × Source)) (event : SinkEvent) :
    CallerPhase Schema Row → SinkShared Schema Row Source →
      Option (CallerPhase Schema Row × SinkShared Schema Row Source)
  | .opening, shared =>
    match event with
    | .proceed => some (.streaming 0, { shared with opened := true })
    | .fail message =>
      some (failCaller (.openStream (.other message))
        { shared with chunks := shared.chunks.dropReceiver })
  | .streaming rowsWritten, shared =>
    (pull shared.source).map fun (item, source) =>
      let shared := { shared with source := source }
      match item with
      | none =>
        (.joiningEncode rowsWritten, { shared with batches := shared.batches.dropSender })
      | some (.error error) => failCaller (.item error) shared
      | some (.ok batch) => acceptBatch setup rowsWritten batch shared
  | .sending batch rowsWritten, shared =>
    (shared.batches.send batch).map fun (sent, batches) =>
      if sent then (.streaming rowsWritten, { shared with batches := batches })
      else failCaller .encoderStopped shared
  | .joiningEncode rowsWritten, shared =>
    shared.encoded.map fun result =>
      match result with
      | .error error => (.returned (.error (.encode error)), shared)
      | .ok _ => (.joiningUpload rowsWritten, shared)
  | .joiningUpload rowsWritten, shared =>
    shared.uploaded.map fun result =>
      match result with
      | .error error => (.returned (.error (.upload error)), shared)
      | .ok bytesWritten => (.returned (.ok ⟨rowsWritten, bytesWritten, 1⟩), shared)
  | .returned _, _ => none

/-- The encoder task ends and drops its ends of both channels. -/
def endEncoder (result : Except ColumnarError Unit) (shared : SinkShared Schema Row Source) :
    EncoderPhase Schema Row × SinkShared Schema Row Source :=
  (.ended, { shared with
    batches := shared.batches.dropReceiver
    chunks := shared.chunks.dropSender
    encoded := some result })

def encoderStep (setup : SinkSetup Schema Row) (event : SinkEvent) :
    EncoderPhase Schema Row → SinkShared Schema Row Source →
      Option (EncoderPhase Schema Row × SinkShared Schema Row Source)
  | .starting, shared =>
    match event with
    | .proceed => some (.sending [] setup.writer.header false, shared)
    | .fail message => some (endEncoder (.error (.parquet message)) shared)
  | .sending written [] closing, shared =>
    if closing then some (endEncoder (.ok ()) shared) else some (.receiving written, shared)
  | .sending written ([] :: chunks) closing, shared =>
    -- `ChunkWriter::write` does not send an empty buffer
    some (.sending written chunks closing, shared)
  | .sending written (chunk :: chunks) closing, shared =>
    (shared.chunks.send chunk).map fun (sent, channel) =>
      if sent then (.sending written chunks closing, { shared with chunks := channel })
      else endEncoder (.error (.parquet "upload consumer gone")) shared
  | .receiving written, shared =>
    shared.batches.receive.map fun (batch, batches) =>
      let shared := { shared with batches := batches }
      match event, batch with
      | .fail message, _ => endEncoder (.error (.parquet message)) shared
      | .proceed, some batch =>
        (.sending (written ++ [batch]) (setup.writer.body written batch) false, shared)
      | .proceed, none => (.sending written (setup.writer.footer written) true, shared)
  | .ended, _ => none

/-- The upload task ends and drops its end of the channel. -/
def endUpload (result : Except ColumnarError Nat) (shared : SinkShared Schema Row Source) :
    UploadPhase × SinkShared Schema Row Source :=
  (.ended, { shared with chunks := shared.chunks.dropReceiver, uploaded := some result })

def uploadStep (event : SinkEvent) : UploadPhase → SinkShared Schema Row Source →
    Option (UploadPhase × SinkShared Schema Row Source)
  | .unspawned, shared => if shared.opened then some (.receiving [], shared) else none
  | .receiving bytes, shared =>
    shared.chunks.receive.map fun (chunk, channel) =>
      let shared := { shared with chunks := channel }
      match event, chunk with
      | .fail message, _ => endUpload (.error (.other message)) shared
      | .proceed, some chunk => (.receiving (bytes ++ chunk), shared)
      | .proceed, none =>
        endUpload (.ok bytes.length) { shared with destination := shared.destination.write bytes }
  | .ended, _ => none

/-! ## Whole sink -/

structure SinkState (Schema Row Source : Type) where
  caller : CallerPhase Schema Row
  encoder : EncoderPhase Schema Row
  upload : UploadPhase
  shared : SinkShared Schema Row Source

/-- One of the three tasks moves. -/
inductive SinkStep (setup : SinkSetup Schema Row)
    (pull : Source → Option (Option (StreamItem Schema Row) × Source)) :
    SinkState Schema Row Source → SinkState Schema Row Source → Prop where
  | caller {caller encoder upload shared caller' shared'} (event : SinkEvent)
      (moves : callerStep setup pull event caller shared = some (caller', shared')) :
      SinkStep setup pull ⟨caller, encoder, upload, shared⟩ ⟨caller', encoder, upload, shared'⟩
  | encoder {caller encoder upload shared encoder' shared'} (event : SinkEvent)
      (moves : encoderStep setup event encoder shared = some (encoder', shared')) :
      SinkStep setup pull ⟨caller, encoder, upload, shared⟩ ⟨caller, encoder', upload, shared'⟩
  | upload {caller encoder upload shared upload' shared'} (event : SinkEvent)
      (moves : uploadStep event upload shared = some (upload', shared')) :
      SinkStep setup pull ⟨caller, encoder, upload, shared⟩ ⟨caller, encoder, upload', shared'⟩

/-- `write_stream_async` is called. -/
def SinkState.initial (source : Source) (destination : Destination) :
    SinkState Schema Row Source where
  caller := .opening
  encoder := .starting
  upload := .unspawned
  shared := ⟨source, .bounded BATCH_QUEUE 1, .bounded BYTE_CHUNK_QUEUE 1, false, none, none,
    destination⟩

/-- Pull from a stream whose items are known. -/
def pullItem : List (StreamItem Schema Row) →
    Option (Option (StreamItem Schema Row) × List (StreamItem Schema Row))
  | [] => some (none, [])
  | item :: rest => some (some item, rest)

/-!
# What a failed stream leaves behind

When the stream yields an error or an invalid batch, the caller drops the batch channel. The
encoder takes this for the end of the batches, and the upload finishes the object. So there is a
schedule in which the object is replaced by a file of the batches before the bad item.
-/

open Option List

section

variable {pull : Source → Option (Option (StreamItem Schema Row) × Source)}

/-- A run of the three tasks, in any schedule. -/
abbrev SinkRuns (setup : SinkSetup Schema Row)
    (pull : Source → Option (Option (StreamItem Schema Row) × Source)) :
    SinkState Schema Row Source → SinkState Schema Row Source → Prop :=
  Relation.ReflTransGen (SinkStep setup pull)

/-! ## A schedule without waiting -/

/-- The tasks have nothing to do until the next item comes. -/
def SinkState.idle (setup : SinkSetup Schema Row) (source : Source) (rowsWritten : Nat)
    (written : List (RecordBatch Schema Row)) (destination : Destination) :
    SinkState Schema Row Source where
  caller := .streaming rowsWritten
  encoder := .receiving written
  upload := .receiving (setup.writer.content written)
  shared := ⟨source, .bounded BATCH_QUEUE 1, .bounded BYTE_CHUNK_QUEUE 1, true, none, none,
    destination⟩

variable {caller : CallerPhase Schema Row} {written : List (RecordBatch Schema Row)}
  {source : Source} {destination : Destination}

/-- The upload takes every chunk as it comes. -/
lemma sinkRuns_chunks {closing opened : Bool} {batches : Channel (RecordBatch Schema Row)}
    {encoded : Option (Except ColumnarError Unit)} {uploaded : Option (Except ColumnarError Nat)}
    (chunks : List (List UInt8)) (bytes : List UInt8) :
    SinkRuns setup pull ⟨caller, .sending written chunks closing, .receiving bytes,
        ⟨source, batches, .bounded BYTE_CHUNK_QUEUE 1, opened, encoded, uploaded, destination⟩⟩
      ⟨caller, .sending written [] closing, .receiving (bytes ++ chunks.flatten),
        ⟨source, batches, .bounded BYTE_CHUNK_QUEUE 1, opened, encoded, uploaded, destination⟩⟩ := by
  induction chunks generalizing bytes with
  | nil =>
    rw [flatten_nil, append_nil]
  | cons chunk _ ih =>
    cases chunk with
    | nil => exact .head (.encoder .proceed rfl) (ih bytes)
    | cons =>
      rw [flatten_cons, ← append_assoc]
      exact .head (.encoder .proceed rfl) (.head (.upload .proceed rfl) (ih _))

lemma sinkRuns_start :
    SinkRuns setup pull (.initial source destination) (.idle setup source 0 [] destination) := by
  have opens : SinkRuns setup pull (.initial source destination)
      ⟨.streaming 0, .sending [] setup.writer.header false, .receiving [],
        ⟨source, .bounded BATCH_QUEUE 1, .bounded BYTE_CHUNK_QUEUE 1, true, none, none,
          destination⟩⟩ :=
    .head (.caller .proceed rfl) (.head (.upload .proceed rfl) (.single (.encoder .proceed rfl)))
  have content : setup.writer.content [] = [] ++ setup.writer.header.flatten := by
    simp [ArrowWriter.content, ArrowWriter.bodies]
  rw [SinkState.idle, content]
  exact (opens.trans (sinkRuns_chunks _ _)).tail (.encoder .proceed rfl)

/-- A valid batch goes through all three tasks. -/
lemma sinkRuns_batch {next : Source}
    (pulls : pull source = some (some (.ok batch), next))
    (valid : batch.schema = setup.schema) :
    SinkRuns setup pull (.idle setup source rowsWritten written destination)
      (.idle setup next (rowsWritten + batch.numRows) (written ++ [batch]) destination) := by
  have takes : callerStep setup pull .proceed (.streaming rowsWritten)
      (SinkState.idle setup source rowsWritten written destination).shared =
      some (.sending batch (rowsWritten + batch.numRows),
        (SinkState.idle setup next rowsWritten written destination).shared) := by
    rw [callerStep, SinkState.idle, pulls]
    exact congrArg some (acceptBatch_of_valid valid)
  have passes : SinkRuns setup pull (.idle setup source rowsWritten written destination)
      ⟨.streaming (rowsWritten + batch.numRows),
        .sending (written ++ [batch]) (setup.writer.body written batch) false,
        .receiving (setup.writer.content written),
        ⟨next, .bounded BATCH_QUEUE 1, .bounded BYTE_CHUNK_QUEUE 1, true, none, none,
          destination⟩⟩ :=
    .head (.caller .proceed takes) (.head (.caller .proceed rfl) (.single (.encoder .proceed rfl)))
  have idles := (passes.trans (sinkRuns_chunks _ _)).tail (.encoder .proceed rfl)
  rw [← ArrowWriter.content_append] at idles
  exact idles

variable (setup pull) in
/-- When the caller is through with the stream, for whatever reason, the file is closed and
the object written. -/
lemma sinkRuns_close : ∃ shared : SinkShared Schema Row Source, SinkRuns setup pull
        ⟨caller, .receiving written, .receiving (setup.writer.content written),
          ⟨source, ⟨BATCH_QUEUE, [], 0, true⟩, .bounded BYTE_CHUNK_QUEUE 1, true, none, none,
            destination⟩⟩
        ⟨caller, .ended, .ended, shared⟩ ∧
      shared.source = source ∧ shared.encoded = some (.ok ()) ∧
      shared.uploaded = some (.ok (setup.writer.file written).length) ∧
      shared.destination = destination.write (setup.writer.file written) := by
  have closes : SinkRuns setup pull
      ⟨caller, .receiving written, .receiving (setup.writer.content written),
        ⟨source, ⟨BATCH_QUEUE, [], 0, true⟩, .bounded BYTE_CHUNK_QUEUE 1, true, none, none,
          destination⟩⟩
      ⟨caller, .sending written [] true, .receiving (setup.writer.file written),
        ⟨source, ⟨BATCH_QUEUE, [], 0, true⟩, .bounded BYTE_CHUNK_QUEUE 1, true, none, none,
          destination⟩⟩ :=
    .head (.encoder .proceed rfl) (sinkRuns_chunks _ _)
  refine ⟨_, (closes.tail (.encoder .proceed rfl)).tail (.upload .proceed rfl), rfl, rfl, rfl, rfl⟩

/-! ## Streams of known items -/

/-- The caller takes the item: it is a batch of the expected schema. -/
def accepts (setup : SinkSetup Schema Row) : StreamItem Schema Row → Bool
  | .ok batch => batch.schema = setup.schema
  | .error _ => false

lemma sinkRuns_bad {item : StreamItem Schema Row} {rest : List (StreamItem Schema Row)}
    (bad : accepts setup item = false) :
    ∃ failure, failure.fromStream = true ∧
      SinkRuns setup pullItem (.idle setup (item :: rest) rowsWritten written destination)
        ⟨.returned (.error failure), .receiving written, .receiving (setup.writer.content written),
          ⟨rest, ⟨BATCH_QUEUE, [], 0, true⟩, .bounded BYTE_CHUNK_QUEUE 1, true, none, none,
            destination⟩⟩ := by
  cases item with
  | error error => exact ⟨.item error, rfl, .single (.caller .proceed rfl)⟩
  | ok =>
    obtain ⟨error, fails⟩ := acceptBatch_of_invalid (of_decide_eq_false bad)
    exact ⟨.invalid error, rfl, .single (.caller .proceed (congrArg some fails))⟩

variable {items : List (StreamItem Schema Row)}

/-- A stream with a bad item can replace the object by the file of the batches before it. -/
lemma sinkRuns_truncated (bad : ∃ item ∈ items, accepts setup item = false) :
    ∃ failure state, failure.fromStream = true ∧
      SinkRuns setup pullItem (.idle setup items rowsWritten written destination) state ∧
      state.caller = .returned (.error failure) ∧
      ∃ batches, state.shared.destination = destination.write (setup.writer.file batches) := by
  induction items generalizing rowsWritten written with
  | nil =>
    obtain ⟨item, mem, -⟩ := bad
    cases mem
  | cons item rest ih =>
    cases accepted : accepts setup item with
    | false =>
      obtain ⟨failure, fromStream, fails⟩ := sinkRuns_bad accepted
      obtain ⟨_, closes, -, -, -, isWritten⟩ := sinkRuns_close setup pullItem
      exact ⟨failure, _, fromStream, fails.trans closes, rfl, _, isWritten⟩
    | true =>
      cases item with
      | error => cases accepted
      | ok =>
        have later : ∃ item ∈ rest, accepts setup item = false := by
          obtain ⟨item, mem, isBad⟩ := bad
          rcases mem_cons.mp mem with rfl | mem
          · cases accepted.symm.trans isBad
          · exact ⟨item, mem, isBad⟩
        obtain ⟨failure, state, fromStream, runs, returned, isWritten⟩ := ih later
        exact ⟨failure, state, fromStream,
          (sinkRuns_batch rfl (of_decide_eq_true accepted)).trans runs, returned, isWritten⟩

/-! ## Streams without a bad item -/

variable {event : SinkEvent} {shared shared' : SinkShared Schema Row Source}

omit [DecidableEq Schema] in
lemma encoderStep_source {phase phase' : EncoderPhase Schema Row}
    (moves : encoderStep setup event phase shared = some (phase', shared')) :
    shared'.source = shared.source := by
  cases phase with
  | starting => cases event <;> cases moves <;> rfl
  | sending _ chunks closing =>
    match chunks with
    | [] => cases closing <;> cases moves <;> rfl
    | [] :: rest =>
      cases moves
      rfl
    | (byte :: more) :: rest =>
      obtain ⟨⟨sent, _⟩, -, ended⟩ := map_eq_some_iff.mp moves
      cases sent <;> cases ended <;> rfl
  | receiving =>
    obtain ⟨⟨batch, _⟩, -, ended⟩ := map_eq_some_iff.mp moves
    cases event <;> cases batch <;> cases ended <;> rfl
  | ended => cases moves

omit [DecidableEq Schema] in
lemma uploadStep_source {phase phase' : UploadPhase}
    (moves : uploadStep event phase shared = some (phase', shared')) :
    shared'.source = shared.source := by
  cases phase with
  | unspawned =>
    obtain ⟨-, ended⟩ := ite_none_right_eq_some.mp moves
    cases ended
    rfl
  | receiving =>
    obtain ⟨⟨chunk, _⟩, -, ended⟩ := map_eq_some_iff.mp moves
    cases event <;> cases chunk <;> cases ended <;> rfl
  | ended => cases moves

/-- The caller has not returned because of the stream. -/
def CallerPhase.Undisturbed (phase : CallerPhase Schema Row) : Prop :=
  ∀ failure, phase = .returned (.error failure) → failure.fromStream = false

lemma callerStep_undisturbed {phase phase' : CallerPhase Schema Row}
    {shared shared' : SinkShared Schema Row (List (StreamItem Schema Row))}
    (good : ∀ item ∈ shared.source, accepts setup item = true)
    (moves : callerStep setup pullItem event phase shared = some (phase', shared')) :
    (∀ item ∈ shared'.source, accepts setup item = true) ∧ phase'.Undisturbed := by
  cases phase with
  | opening =>
    cases event with
    | proceed =>
      cases moves
      exact ⟨good, nofun⟩
    | fail =>
      cases moves
      refine ⟨good, fun failure returned => ?_⟩
      cases returned
      rfl
  | streaming =>
    rcases shared with ⟨source, _, _, _, _, _, _⟩
    match source with
    | [] =>
      cases moves
      exact ⟨good, nofun⟩
    | .error error :: rest => cases good _ mem_cons_self
    | .ok batch :: rest =>
      have valid : batch.schema = setup.schema :=
        of_decide_eq_true (good _ mem_cons_self)
      cases (acceptBatch_of_valid valid).symm.trans (Option.some.inj moves)
      exact ⟨fun item mem => good item (mem_cons_of_mem _ mem), nofun⟩
  | sending =>
    obtain ⟨⟨sent, _⟩, -, ended⟩ := map_eq_some_iff.mp moves
    cases sent with
    | true =>
      cases ended
      exact ⟨good, nofun⟩
    | false =>
      cases ended
      refine ⟨good, fun failure returned => ?_⟩
      cases returned
      rfl
  | joiningEncode =>
    obtain ⟨result, -, ended⟩ := map_eq_some_iff.mp moves
    cases result with
    | ok =>
      cases ended
      exact ⟨good, nofun⟩
    | error =>
      cases ended
      refine ⟨good, fun failure returned => ?_⟩
      cases returned
      rfl
  | joiningUpload =>
    obtain ⟨result, -, ended⟩ := map_eq_some_iff.mp moves
    cases result with
    | ok =>
      cases ended
      exact ⟨good, nofun⟩
    | error =>
      cases ended
      refine ⟨good, fun failure returned => ?_⟩
      cases returned
      rfl
  | returned => cases moves

/-- A caller whose items are all good does not return because of them. -/
lemma sinkRuns_undisturbed {state : SinkState Schema Row (List (StreamItem Schema Row))}
    (good : ∀ item ∈ items, accepts setup item = true)
    (runs : SinkRuns setup pullItem (.initial items destination) state) :
    (∀ item ∈ state.shared.source, accepts setup item = true) ∧ state.caller.Undisturbed := by
  induction runs with
  | refl => exact ⟨good, nofun⟩
  | tail _ step ih =>
    cases step with
    | caller _ moves => exact callerStep_undisturbed ih.1 moves
    | encoder _ moves => exact ⟨(encoderStep_source moves).symm ▸ ih.1, ih.2⟩
    | upload _ moves => exact ⟨(uploadStep_source moves).symm ▸ ih.1, ih.2⟩

/-- After `write_stream_async` has returned an error because of its stream, the destination is as
it was: in every schedule exactly for the streams without a bad item, where there is no such error.
-/
theorem failed_stream_leaves_destination_iff (setup : SinkSetup Schema Row)
    (items : List (StreamItem Schema Row)) (destination : Destination) :
    (∀ state failure, SinkRuns setup pullItem (.initial items destination) state →
        state.caller = .returned (.error failure) → failure.fromStream = true →
        state.shared.destination = destination) ↔
      ∀ item ∈ items, accepts setup item = true := by
  constructor
  · intro unchanged item mem
    cases accepted : accepts setup item with
    | true => rfl
    | false =>
      obtain ⟨failure, state, fromStream, runs, returned, _, isWritten⟩ :=
        sinkRuns_truncated ⟨item, mem, accepted⟩
      have same := unchanged state failure (sinkRuns_start.trans runs) returned fromStream
      rw [isWritten] at same
      exact absurd (congrArg Destination.generation same) (Nat.succ_ne_self _)
  · intro good _ failure runs returned fromStream
    have undisturbed := (sinkRuns_undisturbed good runs).2 failure returned
    rw [undisturbed] at fromStream
    cases fromStream

end

/-! ## A stream that breaks off -/

namespace Reference

/-- A file is its magic number, the row counts of its batches and the magic number. -/
def sinkSetup : SinkSetup String String where
  schema := "id: int64"
  writer :=
    { header := [[80, 65, 82, 49]]
      body := fun _ batch => [[UInt8.ofNat batch.numRows]]
      footer := fun _ => [[80, 65, 82, 49]] }

def firstBatch : RecordBatch String String := ⟨"id: int64", ["1", "2"]⟩

/-- The stream fails after its first batch. The caller returns the error, and the old object is
replaced by a file with that batch. -/
theorem failed_stream_replaces_object : ∃ state, SinkRuns sinkSetup pullItem
        (.initial [.ok firstBatch, .error (.io "connection reset")] ⟨some [1, 2, 3], 0⟩) state ∧
      state.caller = .returned (.error (.item (.io "connection reset"))) ∧
      state.shared.destination = ⟨some (sinkSetup.writer.file [firstBatch]), 1⟩ := by
  have takes : SinkRuns sinkSetup pullItem
      (.initial [.ok firstBatch, .error (.io "connection reset")] ⟨some [1, 2, 3], 0⟩)
      (.idle sinkSetup [.error (.io "connection reset")] (0 + firstBatch.numRows)
        ([] ++ [firstBatch]) ⟨some [1, 2, 3], 0⟩) :=
    sinkRuns_start.trans (sinkRuns_batch rfl rfl)
  have fails := takes.tail (.caller .proceed rfl)
  obtain ⟨_, closes, -, -, -, isWritten⟩ := sinkRuns_close sinkSetup pullItem
  exact ⟨_, fails.trans closes, rfl, isWritten⟩

end Reference

end Parqonaut.Storage
