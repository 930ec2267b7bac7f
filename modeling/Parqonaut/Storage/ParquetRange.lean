import Parqonaut.Rust.Result
import Parqonaut.Storage.Location

/-!
# Parquet footers

`read_parquet_footer` of `parquet_range.rs`, and what the two readers of its bytes check about
their length. The decoder of the metadata is a parameter.
-/

namespace Parqonaut.Storage

open Rust.Result

/-- Value of bytes with the least significant one first. -/
def fromLeBytes : List UInt8 → Nat
  | [] => 0
  | byte :: rest => byte.toNat + 256 * fromLeBytes rest

/-- `PAR1`. -/
def PARQUET_MAGIC : List UInt8 := [0x50, 0x41, 0x52, 0x31]

/-- `PARE`. -/
def PARQUET_MAGIC_ENCR_FOOTER : List UInt8 := [0x50, 0x41, 0x52, 0x45]

/-- Calls of a backend that concern one object. -/
structure ObjectReads where
  rangeReads : Bool
  head : Except StorageError Nat
  readRange : (start stop : Nat) → Except StorageError (List UInt8)

/-- The reads of an object with this content, where a range is given by its first and last byte. -/
structure ObjectReads.Exact (object : ObjectReads) (content : List UInt8) : Prop where
  rangeReads : object.rangeReads = true
  head : object.head = .ok content.length
  readRange {start stop : Nat} : start ≤ stop → stop < content.length →
    object.readRange start stop = .ok ((content.take (stop + 1)).drop start)

/-- `read_range` of `ByteRange::new`. -/
def ObjectReads.readByteRange (object : ObjectReads) (start stop : Nat) :
    Except StorageError (List UInt8) :=
  if stop < start then
    .error (.invalidLocation ("invalid byte range: " ++ toString start ++ "..=" ++ toString stop))
  else object.readRange start stop

structure ParquetFooterBytes where
  footer : List UInt8
  metadataLen : Nat
  objectSize : Nat

def parseMetadataLength (trailer : List UInt8) : Except StorageError Nat :=
  if trailer.length ≠ 8 then .error (.invalidLocation "expected 8-byte Parquet trailer")
  else if trailer.drop 4 ≠ PARQUET_MAGIC then
    .error (.invalidLocation "Parquet trailer missing PAR1 magic")
  else .ok (fromLeBytes (trailer.take 4))

def readParquetFooter (object : ObjectReads) : Except StorageError ParquetFooterBytes := do
  if !object.rangeReads then throw (.unsupportedCapability "range_reads")
  let size ← object.head
  if size < 8 then
    throw (.invalidLocation ("object too small for Parquet footer: " ++ toString size ++ " bytes"))
  let trailer ← object.readByteRange (size - 8) (size - 1)
  let metadataLen ← parseMetadataLength trailer
  if size < metadataLen + 8 then
    throw (.invalidLocation ("invalid Parquet metadata length " ++ toString metadataLen ++
      " for size " ++ toString size))
  let footerStart := size - (metadataLen + 8)
  let footer ← (if footerStart = size - 8 then .ok trailer
    else object.readByteRange footerStart (size - 1))
  if footer.length < 8 ∨ footer.drop (footer.length - 4) ≠ PARQUET_MAGIC then
    throw (.invalidLocation "Parquet footer missing PAR1 magic")
  return ⟨footer, metadataLen, size⟩

/-- `decode_footer_tail` of the Parquet library. -/
def decodeFooterTail (trailer : List UInt8) : Except String Nat :=
  if trailer.drop 4 = PARQUET_MAGIC ∨ trailer.drop 4 = PARQUET_MAGIC_ENCR_FOOTER then
    .ok (fromLeBytes (trailer.take 4))
  else .error "Invalid Parquet file. Corrupt footer"

def lengthMismatch (footer : List UInt8) (metadataLen : Nat) : String :=
  "footer buffer length " ++ toString footer.length ++ " does not match metadata length " ++
    toString metadataLen

variable {α : Type} (decode : List UInt8 → Except String α)

def inspectParquetFooterBuffer (objectSize : Nat) (footer : List UInt8) : Except String α := do
  if footer.length < 8 ∨ footer.length > objectSize then throw "invalid Parquet footer buffer"
  let metadataLen ← decodeFooterTail (footer.drop (footer.length - 8))
  if metadataLen + 8 ≠ footer.length then throw (lengthMismatch footer metadataLen)
  decode (footer.take metadataLen)

/-- `load_metadata` of the asynchronous reader. -/
def loadMetadata (object : ObjectReads) : Except StorageError α := do
  let found ← readParquetFooter object
  let metadataLen ← (decodeFooterTail (found.footer.drop (found.footer.length - 8))).mapError
    fun error => .invalidLocation ("Parquet footer decode: " ++ error)
  if metadataLen + 8 ≠ found.footer.length then
    throw (.invalidLocation (lengthMismatch found.footer metadataLen))
  (decode (found.footer.take metadataLen)).mapError
    fun error => .invalidLocation ("Parquet metadata decode: " ++ error)

variable {object : ObjectReads} {content : List UInt8}

/-- Length that an object states before its last four bytes. -/
def statedLength (content : List UInt8) : Nat :=
  fromLeBytes ((content.drop (content.length - 8)).take 4)

/-- The object ends like a Parquet file, and the length that it states is not more than it has. -/
abbrev HasFooter (content : List UInt8) : Prop :=
  8 ≤ content.length ∧ content.drop (content.length - 4) = PARQUET_MAGIC ∧
    statedLength content + 8 ≤ content.length

lemma readByteRange_of_exact (exact : object.Exact content) {start : Nat}
    (inside : start < content.length) :
    object.readByteRange start (content.length - 1) = .ok (content.drop start) := by
  rw [ObjectReads.readByteRange, if_neg (by omega), exact.readRange (by omega) (by omega),
    Nat.sub_add_cancel (by omega), List.take_length]

/-- The last bytes of the last bytes. -/
lemma drop_drop_last {long short : Nat} (shorter : short ≤ long) (inside : long ≤ content.length) :
    (content.drop (content.length - long)).drop (long - short) =
      content.drop (content.length - short) := by
  rw [List.drop_drop]
  congr 1
  omega

lemma drop_trailer (long : 8 ≤ content.length) :
    (content.drop (content.length - 8)).drop 4 = content.drop (content.length - 4) :=
  drop_drop_last (by decide : 4 ≤ 8) long

lemma parseMetadataLength_eq_ok (long : 8 ≤ content.length) {length : Nat} :
    parseMetadataLength (content.drop (content.length - 8)) = .ok length ↔
      content.drop (content.length - 4) = PARQUET_MAGIC ∧ length = statedLength content := by
  rw [parseMetadataLength, if_neg (by simp; omega), drop_trailer long, statedLength]
  grind

lemma readParquetFooter_eq_ok (exact : object.Exact content) {found : ParquetFooterBytes} :
    readParquetFooter object = .ok found ↔ HasFooter content ∧
      found = ⟨content.drop (content.length - (statedLength content + 8)), statedLength content,
        content.length⟩ := by
  simp only [readParquetFooter, check_eq_ok, bind_eq_ok, exact.rangeReads, exact.head,
    Except.ok.injEq, exists_eq_left']
  by_cases long : 8 ≤ content.length
  · rw [readByteRange_of_exact exact (by omega)]
    simp only [Except.ok.injEq, exists_eq_left', parseMetadataLength_eq_ok long]
    have footer (length : Nat) : (if content.length - (length + 8) = content.length - 8 then
          .ok (content.drop (content.length - 8))
        else object.readByteRange (content.length - (length + 8)) (content.length - 1)) =
          .ok (content.drop (content.length - (length + 8))) := by
      split
      · simp_all
      · exact readByteRange_of_exact exact (by omega)
    simp only [footer, Except.ok.injEq, exists_eq_left', pure_eq_ok, HasFooter]
    constructor
    · rintro ⟨_, _, _, ⟨magic, rfl⟩, fits, _, rfl⟩
      exact ⟨⟨long, magic, by omega⟩, rfl⟩
    · rintro ⟨⟨_, magic, fits⟩, rfl⟩
      refine ⟨by simp, by omega, _, ⟨magic, rfl⟩, by omega, ?_, rfl⟩
      rw [List.length_drop, Nat.sub_sub_self fits, drop_drop_last (by omega) fits]
      simp [magic]
  · simp [HasFooter, long, Nat.lt_of_not_le long]

/-- A footer is read if and only if the object has one; it is the end of the object, and both its
readers find its length right and decode the metadata before the trailer. -/
theorem footer_reading_exact (exact : object.Exact content) :
    ((∃ found, readParquetFooter object = .ok found) ↔ HasFooter content) ∧
    ∀ found, readParquetFooter object = .ok found →
      found.footer = content.drop (content.length - (statedLength content + 8)) ∧
      inspectParquetFooterBuffer decode found.objectSize found.footer =
        decode (found.footer.take (statedLength content)) ∧
      loadMetadata decode object = (decode (found.footer.take (statedLength content))).mapError
        fun error => .invalidLocation ("Parquet metadata decode: " ++ error) := by
  constructor
  · simp [readParquetFooter_eq_ok exact]
  · intro _ reads
    obtain ⟨⟨long, magic, fits⟩, rfl⟩ := (readParquetFooter_eq_ok exact).mp reads
    have decoded : decodeFooterTail (content.drop (content.length - 8)) =
        .ok (statedLength content) := by
      rw [decodeFooterTail, drop_trailer long, if_pos (.inl magic), statedLength]
    refine ⟨rfl, ?_, ?_⟩
    · simp only [inspectParquetFooterBuffer, List.length_drop, Nat.sub_sub_self fits]
      rw [if_neg (by omega), drop_drop_last (by omega) fits, decoded]
      exact if_neg (by simp)
    · rw [loadMetadata, reads]
      simp only [List.length_drop, Nat.sub_sub_self fits, bind, Except.bind]
      rw [drop_drop_last (by omega) fits, decoded]
      exact if_neg (by simp)

/-- An object that is a trailer alone. -/
theorem footer_of_trailer : ∃ found, readParquetFooter ⟨true, .ok 8, fun start stop =>
    .ok (([0, 0, 0, 0, 0x50, 0x41, 0x52, 0x31].take (stop + 1)).drop start)⟩ = .ok found :=
  (footer_reading_exact (fun bytes => .ok bytes) ⟨rfl, rfl, fun _ _ => rfl⟩).1.mpr (by decide)

/-!
# Range reads

`read_range` and `read_stream` of `local.rs` and `memory.rs`, for an object that is there and has
the given content.
-/

open List

/-- An inclusive range, as `ByteRange::new` admits it. -/
structure ByteRange where
  start : Nat
  stop : Nat
  ordered : start ≤ stop

/-- Bytes from the start to the end of the range, or of the object. -/
def ByteRange.of (range : ByteRange) (content : List UInt8) : List UInt8 :=
  (content.take (min range.stop (content.length - 1) + 1)).drop range.start

/-- A file from its position on, of which at most a number of bytes is given out. -/
structure RangeLimitedReader where
  file : List UInt8
  boundedLen : Option Nat
  read : Nat

namespace RangeLimitedReader

variable (reader : RangeLimitedReader) (ready space : Nat)

/-- The file fills the part of a buffer that is allowed as far as it has bytes ready, and with at
least one where it can. -/
def pollRead : List UInt8 × RangeLimitedReader :=
  let allowed := match reader.boundedLen with
    | none => space
    | some most => min (most - reader.read) space
  let filled := min (ready + 1) (min allowed reader.file.length)
  (reader.file.take filled,
    { reader with file := reader.file.drop filled, read := reader.read + filled })

/-- What the reader has yet to give out. -/
def remaining : List UInt8 :=
  match reader.boundedLen with
  | none => reader.file
  | some most => reader.file.take (most - reader.read)

/-- Each read gives out the next of what remains. -/
lemma pollRead_append :
    (reader.pollRead ready space).1 ++ (reader.pollRead ready space).2.remaining =
      reader.remaining := by
  cases bound : reader.boundedLen with
  | none => simp [pollRead, remaining, bound]
  | some most =>
    simp only [pollRead, remaining, bound, Nat.sub_add_eq]
    generalize isFilled : min (ready + 1) _ = filled
    have within : filled ≤ most - reader.read := by omega
    rw [← drop_take, ← min_eq_left within, ← take_take, min_eq_left within, take_append_drop]

lemma pollRead_ne_nil (room : 0 < space) (left : reader.remaining ≠ []) :
    (reader.pollRead ready space).1 ≠ [] := by
  cases bound : reader.boundedLen <;> simp [remaining, bound] at left
  · simp [pollRead, bound, left]
    omega
  · simp [pollRead, bound, left]
    omega

/-- A full read asks until a buffer with room stays empty. The buffer sizes, and what the file has
ready for each, are any. -/
inductive ReadsToEnd : RangeLimitedReader → List UInt8 → Prop
  | done {reader : RangeLimitedReader} {ready space : Nat} : 0 < space →
      (reader.pollRead ready space).1 = [] → ReadsToEnd reader []
  | more {reader : RangeLimitedReader} {ready space : Nat} {rest : List UInt8} :
      (reader.pollRead ready space).1 ≠ [] → ReadsToEnd (reader.pollRead ready space).2 rest →
      ReadsToEnd reader ((reader.pollRead ready space).1 ++ rest)

variable {reader}

/-- A full read ends, and gives out all that remains, whatever the buffers are. -/
lemma readsToEnd_iff {bytes : List UInt8} :
    reader.ReadsToEnd bytes ↔ bytes = reader.remaining := by
  constructor
  · intro reads
    induction reads with
    | done room polled =>
      by_contra left
      exact pollRead_ne_nil _ _ _ room (Ne.symm left) polled
    | more _ _ ih => rw [ih, pollRead_append]
  · rintro rfl
    induction size : reader.remaining.length using Nat.strong_induction_on generalizing reader with
    | _ count ih =>
      have next := reader.pollRead_append 0 1
      by_cases left : reader.remaining = []
      · rw [left] at next ⊢
        exact .done Nat.one_pos (append_eq_nil_iff.mp next).1
      · have some := reader.pollRead_ne_nil 0 1 Nat.one_pos left
        have shorter : (reader.pollRead 0 1).2.remaining.length < count := by
          rw [← size, ← next, length_append]
          exact Nat.lt_add_of_pos_left (length_pos_iff.mpr some)
        rw [← next]
        exact .more some (ih _ shorter rfl)

end RangeLimitedReader

/-- What a caller gets who opens a stream and reads all of it. -/
def FullRead (stream : Except StorageError RangeLimitedReader) (result : Option (List UInt8)) :
    Prop :=
  match stream with
  | .error _ => result = none
  | .ok reader => ∃ bytes, result = some bytes ∧ reader.ReadsToEnd bytes

def beyondObject : StorageError := .invalidLocation "range start beyond object size"

variable (maxOffset : Nat) (content : List UInt8) (range : ByteRange)

/-- A file is set to any position up to the largest one, also behind its end. -/
def Local.seek : Except StorageError (List UInt8) :=
  if maxOffset < range.start then .error (.io "Invalid argument (os error 22)")
  else .ok (content.drop range.start)

def Local.readRange : Except StorageError (List UInt8) :=
  if content.length ≤ range.start then .error beyondObject
  else
    let stop := min range.stop (content.length - 1)
    (Local.seek maxOffset content range).bind fun file =>
      let len := stop - range.start + 1
      -- `read_exact`
      if file.length < len then .error (.io "early eof") else .ok (file.take len)

def Local.readStream : Except StorageError RangeLimitedReader :=
  (Local.seek maxOffset content range).map fun file =>
    let stop := min range.stop (content.length - 1)
    ⟨file, some (stop - range.start + 1), 0⟩

def Memory.readRange : Except StorageError (List UInt8) :=
  let stop := min range.stop (content.length - 1)
  if content.length ≤ range.start then .error beyondObject
  else .ok ((content.take (stop + 1)).drop range.start)

def Memory.readStream : Except StorageError (List UInt8) := Memory.readRange content range

variable {maxOffset content range}

lemma take_drop_eq : (content.drop range.start).take
    (min range.stop (content.length - 1) - range.start + 1) =
      if range.start < content.length then range.of content else [] := by
  have ordered := range.ordered
  split
  · rw [ByteRange.of, drop_take]
    congr 1
    omega
  · rename_i beyond
    simp [drop_eq_nil_of_le (not_lt.mp beyond)]

lemma local_readRange_eq : (Local.readRange maxOffset content range).toOption =
    if range.start < content.length ∧ range.start ≤ maxOffset then some (range.of content)
    else none := by
  by_cases inside : range.start < content.length
  · have enough : ¬ content.length - range.start <
        min range.stop (content.length - 1) - range.start + 1 := by omega
    by_cases reached : maxOffset < range.start
    · simp [Local.readRange, Local.seek, inside.not_ge, reached, Except.bind, Except.toOption]
    · simp [Local.readRange, Local.seek, inside, inside.not_ge, reached, not_lt.mp reached, Except.bind,
        enough, take_drop_eq, Except.toOption]
  · simp [Local.readRange, inside, not_lt.mp inside, Except.toOption]

lemma fullRead_readStream {result : Option (List UInt8)} :
    FullRead (Local.readStream maxOffset content range) result ↔ result =
      if range.start ≤ maxOffset then
        some (if range.start < content.length then range.of content else [])
      else none := by
  by_cases reached : maxOffset < range.start
  · simp [FullRead, Local.readStream, Local.seek, reached, reached.not_ge, Except.map]
  · simp [FullRead, Local.readStream, Local.seek, reached, not_lt.mp reached, Except.map, take_drop_eq,
      RangeLimitedReader.readsToEnd_iff, RangeLimitedReader.remaining]

/-- The reads of a range agree just where it starts within the object, or at a position that no
file has. -/
theorem range_reads_agree_iff (maxOffset : Nat) (content : List UInt8) (range : ByteRange) :
    ((∀ result, FullRead (Local.readStream maxOffset content range) result ↔
          result = (Local.readRange maxOffset content range).toOption) ∧
        Memory.readStream content range = Memory.readRange content range ∧
        (Local.readRange maxOffset content range).toOption =
          (Memory.readRange content range).toOption ∧
        ∀ bytes, Memory.readRange content range = .ok bytes → bytes = range.of content) ↔
      (range.start < content.length ↔ range.start ≤ maxOffset) := by
  have inMemory : Memory.readRange content range =
      if range.start < content.length then .ok (range.of content) else .error beyondObject := by
    simp only [Memory.readRange, ByteRange.of, ← not_lt, ite_not]
  simp only [Memory.readStream, local_readRange_eq, inMemory, fullRead_readStream]
  by_cases inside : range.start < content.length <;>
    by_cases reached : range.start ≤ maxOffset <;> simp [inside, reached, Except.toOption]

/-- A range behind the end fails as a whole and is empty as a stream. -/
theorem range_reads_differ :
    FullRead (Local.readStream 9 [7] ⟨1, 1, Nat.le_refl 1⟩) (some []) ∧
      Local.readRange 9 [7] ⟨1, 1, Nat.le_refl 1⟩ = .error beyondObject :=
  ⟨fullRead_readStream.mpr rfl, rfl⟩

end Parqonaut.Storage
