import Mathlib.Algebra.Order.Group.Multiset
import Parqonaut.Effects.Always
import Parqonaut.Repair.Operations

/-!
# Rows of a merge

A merge writes its outputs below its output directory and nothing else, and the outputs
together hold the rows of the inputs, provided that no input is one of the outputs.
-/

namespace Parqonaut.Repair

open Effects Rust Fallible List AList Path Disk

variable {File Schema Batch Row : Type}

/-- Reading and writing parquet files keeps their rows, and so do casts and renames. -/
structure RowPreserving (tools : Toolkit File Schema Batch) (rows : File → Multiset Row)
    (batchRows : Batch → Multiset Row) : Prop where
  read : ∀ {file schema batches}, tools.readBatches file = .ok (schema, batches) →
    rows file = (batches.map batchRows).sum
  write : ∀ {options schema batches file}, tools.writeBatches options schema batches = .ok file →
    rows file = (batches.map batchRows).sum
  cast : ∀ {column targetType file result}, tools.cast column targetType file = .ok result →
    rows result = rows file
  rename : ∀ {source target file result}, tools.rename source target file = .ok result →
    rows result = rows file

/-- Rows of the file at a path. -/
def rowsAt (rows : File → Multiset Row) (disk : Disk File) (path : String) : Multiset Row :=
  (disk.fileAt path).elim 0 rows

/-- Nothing changes outside of a directory, and no directory disappears. -/
structure SameOutside (scratch : List String) (before after : Disk File) : Prop where
  dirs : before.dirs ⊆ after.dirs
  files : ∀ place, below scratch place = false →
    after.files.lookup place = before.files.lookup place

namespace SameOutside

variable {scratch : List String} {first second third : Disk File}

lemma trans (early : SameOutside scratch first second) (late : SameOutside scratch second third) :
    SameOutside scratch first third :=
  ⟨List.Subset.trans early.dirs late.dirs,
    fun place outside => (late.files place outside).trans (early.files place outside)⟩

lemma insert {place : List String} {contents : File} (inside : below scratch place = true) :
    SameOutside scratch first { first with files := first.files.insert place contents } where
  dirs := List.Subset.refl _
  files := by
    intro _ outside
    apply lookup_insert_ne
    rintro rfl
    rw [inside] at outside
    cases outside

end SameOutside

/-! ## Part names -/

namespace MergeTarget

variable (target : MergeTarget)

/-- Name of a part. -/
def partName (idx : Nat) : String :=
  target.basename ++ "-part-" ++ Str.zeroPadded 4 idx ++ ".parquet"

variable {target} (free : '/' ∉ target.basename.toList)

include free

lemma isName_partName (idx : Nat) : IsName (target.partName idx) := by
  apply isName_of_length
  · simp only [partName, String.toList_append, length_append]
    have suffix : ".parquet".toList.length = 8 := by decide
    omega
  · simp only [partName, String.toList_append, mem_append, not_or]
    refine ⟨⟨⟨free, by decide⟩, fun mem => ?_⟩, by decide⟩
    exact absurd (Str.isDigit_of_mem_zeroPadded mem) (by decide)

lemma resolve_partPath (idx : Nat) : resolve (target.partPath idx) =
      resolve target.outputDir ++ [target.partName idx] := by
  have isName := isName_partName free idx
  change resolve (join target.outputDir (target.partName idx)) = _
  rw [resolve_join (isPlain_of_isName isName), Str.split_eq_singleton isName.2.2.2]

lemma below_partPath (idx : Nat) :
    below (resolve target.outputDir) (resolve (target.partPath idx)) = true :=
  below_iff.mpr ⟨_, [], resolve_partPath free idx⟩

lemma partPath_inj {first second : Nat}
    (same : resolve (target.partPath first) = resolve (target.partPath second)) :
    first = second := by
  rw [resolve_partPath free, resolve_partPath free] at same
  have names := head_eq_of_cons_eq (append_cancel_left same)
  simp only [partName] at names
  exact Str.zeroPadded_injective
    (String.append_right_inj _ |>.mp (String.append_left_inj _ |>.mp names))

end MergeTarget

/-! ## Calls of a merge -/

section

variable {allowed : FsRequest File → Prop} {errors : ParqknifeError → Prop}
  {tools : Toolkit File Schema Batch} {target : MergeTarget}

lemma within_transformCall {request : FsRequest File} (allows : allowed request)
    (raised : ∀ message, errors (.io message)) :
    Within allowed (fun _ => True) errors (transformCall request) := by
  refine within_request_bind allows fun answer => ?_
  cases answer with
  | ok => exact within_pure trivial
  | error => exact within_throw (raised _)

lemma within_parquetResult {α : Type} {result : Except String α}
    (raised : ∀ message, errors (.parquet message)) :
    Within allowed (fun _ => True) errors (parquetResult result : TransformM File α) := by
  cases result with
  | ok => exact within_pure trivial
  | error => exact within_throw (raised _)

/-- The errors of a merge. -/
def OfMerge (errors : ParqknifeError → Prop) : Prop :=
  ∀ message, errors (.io message) ∧ errors (.parquet message) ∧ errors (.invalidInput message)

/-- The open writer is that of a part. -/
def WritesPart (target : MergeTarget) (state : MergeState Schema Batch) : Prop :=
  ∀ writer, state.writer = some writer → ∃ idx, writer.path = target.partPath idx

variable (raised : OfMerge errors)
  (writes : ∀ idx contents, allowed (.write (target.partPath idx) contents))

include raised writes

variable {state : MergeState Schema Batch}

lemma within_closeWriter (atPart : WritesPart target state) :
    Within allowed (fun _ => True) errors (closeWriter tools target state.writer) := by
  cases opened : state.writer with
  | none => exact within_pure trivial
  | some writer =>
    obtain ⟨idx, path⟩ := atPart writer opened
    refine within_bind (within_parquetResult fun message => (raised message).2.1) fun _ _ => ?_
    exact within_transformCall (path ▸ writes idx _) fun message => (raised message).1

lemma within_mergeBatch {fileSchema : Schema} {batch : Batch} (atPart : WritesPart target state) :
    Within allowed (WritesPart target) errors (mergeBatch tools target fileSchema state batch) := by
  have current : Within allowed (WritesPart target) errors
      (currentPart tools target fileSchema state (tools.batchBytes batch)) := by
    rw [currentPart]
    split
    · refine within_bind (within_closeWriter raised writes atPart) fun _ _ => ?_
      refine within_bind (within_transformCall (writes _ _) fun message => (raised message).1)
        fun _ _ => within_pure ?_
      rintro writer ⟨⟩
      exact ⟨_, rfl⟩
    · exact within_pure atPart
  refine within_bind current fun next kept => within_pure ?_
  intro _ opened
  obtain ⟨before, wasOpen, rfl⟩ := Option.map_eq_some_iff.mp opened
  exact kept before wasOpen

lemma within_mergeBatches {fileSchema : Schema} {batches : List Batch}
    (atPart : WritesPart target state) :
    Within allowed (WritesPart target) errors
      (mergeBatches tools target fileSchema batches state) := by
  induction batches generalizing state with
  | nil => exact within_pure atPart
  | cons _ _ ih =>
    exact within_bind (within_mergeBatch raised writes atPart) fun _ kept => ih kept

variable [DecidableEq Schema] (reads : ∀ path, allowed (.read path)) {inputs : List String}

include reads

lemma within_mergeInputs (atPart : WritesPart target state) :
    Within allowed (WritesPart target) errors (mergeInputs tools target inputs state) := by
  induction inputs generalizing state with
  | nil => exact within_pure atPart
  | cons input _ ih =>
    refine within_bind (within_transformCall (reads input) fun message => (raised message).1)
      fun contents _ => ?_
    refine within_bind (within_parquetResult fun message => (raised message).2.1) fun read _ => ?_
    have checked : Within allowed (WritesPart target) errors
        (checkSchema input read.1 state : TransformM File _) := by
      rw [checkSchema]
      split
      · exact within_pure atPart
      · split
        · exact within_pure atPart
        · exact within_throw (raised _).2.2
    exact within_bind checked fun _ next =>
      within_bind (within_mergeBatches raised writes next) fun _ next => ih next

/-- A merge reads files, makes its output directory and writes its parts. -/
lemma within_mergeParquetFiles (creates : allowed (.createDirAll target.outputDir)) :
    Within allowed (fun _ => True) errors (mergeParquetFiles tools target inputs) := by
  rw [mergeParquetFiles]
  split
  · exact within_throw (raised _).2.2
  · refine within_bind (within_transformCall creates fun message => (raised message).1)
      fun _ _ => ?_
    have start : WritesPart target (.start : MergeState Schema Batch) := by
      rintro _ ⟨⟩
    refine within_bind (within_mergeInputs raised writes reads start) fun _ atPart => ?_
    exact within_bind (within_closeWriter raised writes atPart) fun _ _ => within_pure trivial

end

/-! ## Merge loop -/

variable (rows : File → Multiset Row) (batchRows : Batch → Multiset Row) (target : MergeTarget)

/-- The first parts hold the given contents. -/
def HoldsParts (disk : Disk File) (contents : List File) : Prop :=
  ∀ idx file, contents[idx]? = some file → disk.fileAt (target.partPath idx) = some file

/-- All parts are closed and hold `done`. -/
structure Finished (start : Disk File) (outputs : List String) (done : Multiset Row)
    (disk : Disk File) : Prop where
  outside : SameOutside (resolve target.outputDir) start disk
  parts : ∃ contents : List File, outputs = (List.range contents.length).map target.partPath ∧
    HoldsParts target disk contents ∧ done = (contents.map rows).sum

/-- The last part is open; the closed parts and the batches written to it hold `done`. -/
structure Merging (start : Disk File) (state : MergeState Schema Batch) (done : Multiset Row)
    (disk : Disk File) : Prop where
  outside : SameOutside (resolve target.outputDir) start disk
  parts : match state.writer with
    | none => state.outputs = [] ∧ done = 0
    | some writer => ∃ closed : List File,
        state.outputs = (List.range (closed.length + 1)).map target.partPath ∧
        writer.path = target.partPath closed.length ∧ HoldsParts target disk closed ∧
        done = (closed.map rows).sum + (writer.batches.map batchRows).sum

/-- Only the places of the outputs have changed. -/
def OnlyOutputs (start : Disk File) (outputs : List String) (disk : Disk File) : Prop :=
  ∀ place, (∀ output ∈ outputs, place ≠ resolve output) →
    disk.files.lookup place = start.files.lookup place

/-- The merge loop with the places that it has changed. -/
structure Tracks (start : Disk File) (state : MergeState Schema Batch) (done : Multiset Row)
    (disk : Disk File) : Prop where
  merging : Merging rows batchRows target start state done disk
  only : OnlyOutputs start state.outputs disk

/-- A step of the loop that adds `more` rows. -/
structure Extends (start : Disk File) (state next : MergeState Schema Batch)
    (done : Multiset Row) (after : Disk File) : Prop where
  tracks : Tracks rows batchRows target start next done after
  outputs : state.outputs ⊆ next.outputs

variable {rows batchRows target} {tools : Toolkit File Schema Batch} {start disk after : Disk File}
  {state next : MergeState Schema Batch} {done : Multiset Row} {truncated : File}
  {outputs : List String}

lemma OnlyOutputs.insert (only : OnlyOutputs start outputs disk)
    {output : String} (listed : output ∈ outputs) (contents : File) :
    OnlyOutputs start outputs
      { disk with files := disk.files.insert (resolve output) contents } := by
  intro place outside
  rw [lookup_insert_ne (outside output listed)]
  exact only place outside

lemma OnlyOutputs.mono {more : List String} (only : OnlyOutputs start outputs disk)
    (subset : outputs ⊆ more) : OnlyOutputs start more disk :=
  fun place outside => only place fun output listed => outside output (subset listed)

variable (preserving : RowPreserving tools rows batchRows) (free : '/' ∉ target.basename.toList)

include free

variable {contents : List File}

lemma HoldsParts.insert (holds : HoldsParts target disk contents)
    {file : File} {idx : Nat} (later : contents.length ≤ idx) :
    HoldsParts target { disk with files := disk.files.insert (resolve (target.partPath idx)) file }
      contents := by
  intro earlier contents' found
  have bound : earlier < contents.length := (List.getElem?_eq_some_iff.mp found).1
  rw [fileAt, lookup_insert_ne]
  · exact holds earlier contents' found
  · intro same
    have equal := target.partPath_inj free same
    omega

lemma HoldsParts.concat (holds : HoldsParts target disk contents) (file : File) :
    HoldsParts target { disk with
        files := disk.files.insert (resolve (target.partPath contents.length)) file }
      (contents ++ [file]) := by
  intro idx found present
  by_cases last : idx = contents.length
  · subst last
    rw [List.getElem?_concat_length, Option.some.injEq] at present
    rw [fileAt, lookup_insert, present]
  · have bound : idx < contents.length := by
      have within := (List.getElem?_eq_some_iff.mp present).1
      simp only [length_append, length_singleton] at within
      omega
    rw [List.getElem?_append_left bound] at present
    exact holds.insert free (Nat.le_refl _) idx found present

include preserving

lemma closeWriter_finishes (tracks : Tracks rows batchRows target start state done disk)
    (returns : Returns (service truncated) (closeWriter tools target state.writer) disk () after) :
    Finished rows target start state.outputs done after ∧
      OnlyOutputs start state.outputs after := by
  obtain ⟨⟨outside, parts⟩, only⟩ := tracks
  cases opened : state.writer with
  | none =>
    rw [opened] at parts returns
    obtain ⟨_, rfl⟩ := returns_pure.mp returns
    obtain ⟨outputs, rfl⟩ := parts
    exact ⟨⟨outside, [], by simpa using outputs, fun _ _ found => by simp at found, rfl⟩, only⟩
  | some =>
    rw [opened] at parts returns
    obtain ⟨closed, outputs, path, holds, rfl⟩ := parts
    obtain ⟨contents, _, written, writing⟩ := returns.of_bind
    obtain ⟨result, rfl⟩ := value_of_returns_parquetResult written
    obtain rfl := after_write (serve_of_returns_transformCall writing)
    rw [path]
    refine ⟨⟨outside.trans (.insert (target.below_partPath free _)), closed ++ [contents],
      by simpa using outputs, holds.concat free contents, ?_⟩, only.insert ?_ _⟩
    · rw [map_append, sum_append, map_singleton, sum_singleton, preserving.write result]
    · rw [outputs]
      exact mem_map_of_mem (mem_range.mpr (Nat.lt_succ_self _))

variable {fileSchema : Schema}

section

variable (tracks : Tracks rows batchRows target start state done disk)
include tracks

lemma nextPart_extends
    (returns : Returns (service truncated) (nextPart tools target fileSchema state)
      disk next after) :
    Extends rows batchRows target start state next done after ∧ next.writer.isSome = true := by
  obtain ⟨_, _, closing, creating⟩ := returns.of_bind
  obtain ⟨⟨outside, contents, outputs, holds, rfl⟩, only⟩ :=
    closeWriter_finishes preserving free tracks closing
  obtain ⟨_, _, created, ended⟩ := creating.of_bind
  obtain rfl := after_write (serve_of_returns_transformCall created)
  cases ended.of_pure
  have count : state.outputs.length = contents.length := by simp [outputs]
  have grown : state.outputs ⊆ state.outputs ++ [target.partPath state.outputs.length] :=
    subset_append_left _ _
  refine ⟨⟨⟨⟨outside.trans (.insert (target.below_partPath free _)), contents, ?_, ?_,
    holds.insert free (Nat.le_of_eq count.symm), by simp⟩, (only.mono grown).insert (by simp) _⟩,
    grown⟩, rfl⟩
  · simp [outputs, range_succ]
  · simp [count]

lemma currentPart_extends {bytes : Nat} (returns : Returns (service truncated)
      (currentPart tools target fileSchema state bytes) disk next after) :
    Extends rows batchRows target start state next done after ∧ next.writer.isSome = true := by
  unfold currentPart at returns
  split at returns
  · exact nextPart_extends preserving free tracks returns
  · rename_i fits
    cases returns.of_pure
    refine ⟨⟨tracks, List.Subset.refl _⟩, ?_⟩
    cases opened : state.writer with
    | none => simp [opened] at fits
    | some => rfl

lemma mergeBatch_extends {batch : Batch} (returns : Returns (service truncated)
      (mergeBatch tools target fileSchema state batch) disk next after) :
    Extends rows batchRows target start state next (done + batchRows batch) after := by
  obtain ⟨_, _, choosing, ended⟩ := returns.of_bind
  cases ended.of_pure
  obtain ⟨⟨⟨⟨outside, parts⟩, only⟩, grown⟩, opened⟩ :=
    currentPart_extends preserving free tracks choosing
  obtain ⟨_, found⟩ := Option.isSome_iff_exists.mp opened
  rw [found] at parts
  obtain ⟨closed, outputs, path, holds, rfl⟩ := parts
  refine ⟨⟨⟨outside, ?_⟩, only⟩, grown⟩
  rw [MergeState.append, found]
  exact ⟨closed, outputs, path, holds, by simp [add_assoc]⟩

lemma mergeBatches_extends {batches : List Batch} (returns : Returns (service truncated)
      (mergeBatches tools target fileSchema batches state) disk next after) :
    Extends rows batchRows target start state next (done + (batches.map batchRows).sum)
      after := by
  induction batches generalizing state done disk with
  | nil =>
    cases returns.of_pure
    exact ⟨by simpa using tracks, List.Subset.refl _⟩
  | cons _ _ ih =>
    obtain ⟨_, _, first, later⟩ := returns.of_bind
    have step := mergeBatch_extends preserving free tracks first
    have others := ih step.tracks later
    rw [add_assoc, ← sum_cons, ← map_cons] at others
    exact ⟨others.tracks, List.Subset.trans step.outputs others.outputs⟩

end

variable [DecidableEq Schema]

omit preserving free in
lemma checkSchema_extends {input : String}
    (tracks : Tracks rows batchRows target start state done disk)
    (returns : Returns (service truncated) (checkSchema input fileSchema state)
      disk next after) : Extends rows batchRows target start state next done after := by
  unfold checkSchema at returns
  split at returns
  · cases returns.of_pure
    exact ⟨⟨⟨tracks.merging.outside, tracks.merging.parts⟩, tracks.only⟩, List.Subset.refl _⟩
  · split at returns
    · cases returns.of_pure
      exact ⟨tracks, List.Subset.refl _⟩
    · cases returns.of_throw

variable {inputs : List String}

/-- Inputs that are none of the outputs are read as they were at the start. -/
lemma mergeInputs_extends (tracks : Tracks rows batchRows target start state done disk)
    (returns : Returns (service truncated) (mergeInputs tools target inputs state)
      disk next after) :
    ∃ total, Extends rows batchRows target start state next total after ∧
      ((∀ input ∈ inputs, ∀ output ∈ next.outputs, resolve input ≠ resolve output) →
        total = done + (inputs.map (rowsAt rows start)).sum) := by
  induction inputs generalizing state done disk with
  | nil =>
    cases returns.of_pure
    exact ⟨done, ⟨tracks, List.Subset.refl _⟩, fun _ => by simp⟩
  | cons input _ ih =>
    obtain ⟨contents, _, read, parsing⟩ := returns.of_bind
    obtain ⟨found, rfl⟩ := serve_read_eq_ok.mp (serve_of_returns_transformCall read)
    obtain ⟨⟨_, batches⟩, _, parsed, checking⟩ := parsing.of_bind
    obtain ⟨result, rfl⟩ := value_of_returns_parquetResult parsed
    obtain ⟨_, _, schema, looping⟩ := checking.of_bind
    obtain ⟨_, _, merged, later⟩ := looping.of_bind
    have accepted := checkSchema_extends tracks schema
    have step := mergeBatches_extends preserving free accepted.tracks merged
    obtain ⟨total, others, counts⟩ := ih step.tracks later
    have grown : state.outputs ⊆ next.outputs :=
      List.Subset.trans (List.Subset.trans accepted.outputs step.outputs) others.outputs
    refine ⟨total, ⟨others.tracks, grown⟩, fun apart => ?_⟩
    have there : start.fileAt input = some contents := by
      rw [← found, fileAt, fileAt, tracks.only _ fun output listed =>
        apart input mem_cons_self output (grown listed)]
    have here : rowsAt rows start input = (batches.map batchRows).sum := by
      rw [rowsAt, there]
      exact preserving.read result
    rw [counts fun other mem => apart other (mem_cons_of_mem _ mem), map_cons,
      sum_cons, here, add_assoc]

/-- What a merge that returns has written, also when inputs lie in its output directory. -/
lemma mergeParquetFiles_writes
    (returns : Returns (service truncated) (mergeParquetFiles tools target inputs)
      disk outputs after) :
    OnlyOutputs disk outputs after ∧ ∃ total, Finished rows target disk outputs total after ∧
      ((∀ input ∈ inputs, ∀ output ∈ outputs, resolve input ≠ resolve output) →
        total = (inputs.map (rowsAt rows disk)).sum) := by
  unfold mergeParquetFiles at returns
  split at returns
  · cases returns.of_throw
  · obtain ⟨_, created, making, merging⟩ := returns.of_bind
    obtain ⟨sameFiles, dirs, _⟩ :=
      after_createDirAll (serve_of_returns_transformCall making)
    obtain ⟨_, _, looped, closing⟩ := merging.of_bind
    obtain ⟨_, _, closed, ended⟩ := closing.of_bind
    cases ended.of_pure
    have begun : Tracks rows batchRows target disk (.start : MergeState Schema Batch) 0 created :=
      ⟨⟨⟨dirs, fun place _ => by rw [sameFiles]⟩, rfl, rfl⟩, fun place _ => by rw [sameFiles]⟩
    obtain ⟨total, extended, counts⟩ := mergeInputs_extends preserving free begun looped
    obtain ⟨finished, only⟩ := closeWriter_finishes preserving free extended.tracks closed
    refine ⟨only, total, finished, fun apart => ?_⟩
    have sorted := perm_insertionSort (· ≤ ·) inputs
    rw [counts fun input mem => apart input (sorted.mem_iff.mp mem), zero_add,
      (sorted.map _).sum_eq]

end Parqonaut.Repair
