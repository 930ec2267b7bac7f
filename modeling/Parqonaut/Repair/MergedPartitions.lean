import Parqonaut.Repair.Planning
import Parqonaut.Repair.RowConservation

/-!
# Partition values under merges

A file below directories `key=value` belongs to the partition that they spell. Merged files are
put directly below the root, so their rows lose it.

`origin` names the file in which a row was before the merge, so that equal cells are different
rows.
-/

namespace Parqonaut.Repair

open Effects Rust List Path Fallible

/-! ## Hive segments -/

structure PartitionSegment where
  key : String
  value : String
  deriving DecidableEq

/-- Segment that a component of a path spells. -/
def hiveSegment (component : String) : Option PartitionSegment :=
  match Str.splitOnce component '=' with
  | none => none
  | some (key, value) =>
    if key ≠ "" && value ≠ "" && key.toList.all (fun c => c.isAlphanum || c = '_') then
      some ⟨key, value⟩
    else none

/-- Hive-style `key=value` segments discovered on a path relative to a scan root. -/
def hivePartitionSegments (root file : String) : List PartitionSegment :=
  let rel := if startsWith file root then (stripPrefix file root).getD file else file
  (((components rel).flatMap fun component => Str.split component '/').filter
    fun component => component ≠ "").filterMap hiveSegment

lemma hiveSegment_eq_none {component : String} (free : '=' ∉ component.toList) :
    hiveSegment component = none := by
  rw [hiveSegment, Str.splitOnce, if_neg free]

/-- Segments among the pieces of a text. -/
def segmentsIn (text : String) : List PartitionSegment :=
  (Str.split text '/').filterMap hiveSegment

/-- Pieces that are no components spell no segments. -/
lemma segments_components (text : String) :
    (((components text).flatMap fun component => Str.split component '/').filter
      fun component => component ≠ "").filterMap hiveSegment = segmentsIn text := by
  have whole : ∀ pieces : List String, (∀ piece ∈ pieces, '/' ∉ piece.toList) →
      (pieces.flatMap fun component => Str.split component '/') = pieces := by
    intro pieces free
    rw [flatMap_congr fun piece mem => Str.split_eq_singleton (free piece mem), flatMap_singleton']
  have kept : ∀ pieces : List String, ((pieces.filter fun piece => piece ≠ "" && piece ≠ ".").filter
        fun component => component ≠ "").filterMap hiveSegment =
        pieces.filterMap hiveSegment := by
    intro _
    rw [filter_filter, filterMap_filter]
    apply filterMap_congr
    intro piece _
    by_cases empty : piece = ""
    · simp [empty, show hiveSegment "" = none by decide]
    · by_cases dot : piece = "."
      · simp [dot, show hiveSegment "." = none by decide]
      · simp [empty, dot]
  have head : (((leading text).flatMap fun component => Str.split component '/').filter
      fun component => component ≠ "").filterMap hiveSegment = [] := by
    rw [leading]
    split
    · decide
    · split
      · decide
      · rfl
  rw [components_eq, flatMap_append, filter_append, filterMap_append, head,
    nil_append, whole _ fun piece mem =>
      Str.free_of_mem_split (mem_filter.mp mem).1, kept, segmentsIn]

lemma segmentsIn_trimStart (text : String) :
    segmentsIn (Str.trimStartMatches '/' text) = segmentsIn text := by
  simp only [segmentsIn, Str.trimStartMatches, Str.split, String.toList_ofList]
  induction text.toList with
  | nil => rfl
  | cons first _ ih =>
    by_cases slash : first = '/'
    · rw [dropWhile_cons_of_pos (by simp [slash]), ih, slash, splitOn_cons_eq_if_modifyHead]
      simp [show hiveSegment "" = none by decide]
    · rw [dropWhile_cons_of_neg (by simp [slash])]

lemma hivePartitionSegments_eq (root file : String) :
    hivePartitionSegments root file = segmentsIn (relativize root file) := by
  rw [hivePartitionSegments, segments_components, relativize, stripPrefix]
  split
  · exact (segmentsIn_trimStart _).symm
  · rfl

/-! ## Partitions of merged rows -/

lemma mem_sum_map {α Row : Type} {items : List α} {f : α → Multiset Row} {row : Row} :
    row ∈ (items.map f).sum ↔ ∃ item ∈ items, row ∈ f item := by
  induction items with
  | nil => simp
  | cons _ _ ih => simp [ih]

lemma hivePartitionSegments_join {root rel : String} (plain : IsPlain rel) :
    hivePartitionSegments root (join root rel) = segmentsIn rel := by
  rw [hivePartitionSegments_eq, relativize_join plain]

/-- A merged file is in no partition. -/
lemma hivePartitionSegments_mergedName (root : String) (idx : Nat) :
    hivePartitionSegments root (join root (mergedName idx)) = [] := by
  have isName := isName_mergedName idx
  have free : '=' ∉ (mergedName idx).toList := by
    simp only [mergedName, String.toList_append, mem_append, not_or]
    refine ⟨⟨by decide, fun mem => ?_⟩, by decide⟩
    exact absurd (Str.isDigit_of_mem_zeroPadded mem) (by decide)
  rw [hivePartitionSegments_join (isPlain_of_isName isName), segmentsIn,
    Str.split_eq_singleton isName.2.2.2, filterMap_cons_none (hiveSegment_eq_none free),
    filterMap_nil]

/-- The file is small and has the most frequent schema of the small files. -/
structure Mergeable (inventory : DatasetInventory) (policy : EffectivePolicy)
    (file : ParquetFileMeta) : Prop where
  listed : file ∈ inventory.parquetFiles
  small : file.sizeBytes < policy.repair.smallFileThresholdBytes
  fits : file.sizeBytes ≤ policy.files.maxFileBytes
  schema : ∀ key, dominantKey (inventory.smallFiles policy.repair.smallFileThresholdBytes) =
    some key → DatasetInventory.structuralSchemaKey file.fields = key

section

variable {digests : Digests} {root : String} {inventory : DatasetInventory}
  {policy : EffectivePolicy}

lemma mem_mergeCandidates {rel : String} : rel ∈ mergeCandidates root inventory policy ↔
      ∃ file, Mergeable inventory policy file ∧ relativize root file.path = rel := by
  rw [mergeCandidates, mem_map]
  refine exists_congr fun file => and_congr_left fun _ => ?_
  rw [mem_filter, mem_filter, DatasetInventory.smallFiles, mem_filter,
    decide_eq_true_eq, decide_eq_true_eq]
  constructor
  · rintro ⟨⟨⟨listed, small⟩, fits⟩, schema⟩
    refine ⟨listed, small, fits, fun key dominant => ?_⟩
    rw [DatasetInventory.smallFiles] at dominant
    rw [dominant] at schema
    exact of_decide_eq_true schema
  · rintro ⟨listed, small, fits, schema⟩
    refine ⟨⟨⟨listed, small⟩, fits⟩, ?_⟩
    rw [DatasetInventory.smallFiles] at schema
    split
    · rfl
    · rename_i key dominant
      exact decide_eq_true (schema key dominant)

variable {inputs : List String}

/-- Only one rule proposes merges. -/
lemma inputs_of_proposed {scan : ScanReport} {findings : List String} {op : ProposedOperation}
    {bytes : Nat}
    (proposed : op ∈ applyRepairRules digests root inventory policy scan findings)
    (merges : op.action = .mergeSmallFiles bytes inputs) :
    inputs = mergeCandidates root inventory policy := by
  have fromRule : ∀ code, ruleFor digests root inventory policy code = some op →
      inputs = mergeCandidates root inventory policy := by
    intro code made
    rw [ruleFor] at made
    split at made
    · rw [Option.ite_none_right_eq_some, Option.some.injEq] at made
      rw [← made.2] at merges
      cases merges
      rfl
    · split at made
      · cases made
        cases merges
      · rw [Option.ite_none_right_eq_some, Option.some.injEq] at made
        rw [← made.2] at merges
        cases merges
  have others : op ∉ statisticsOps digests root inventory ++
      splitOps digests root inventory policy ++ scanOps digests root inventory policy scan := by
    simp only [statisticsOps, splitOps, scanOps, mem_append, mem_map, not_or]
    refine ⟨⟨fun mem => ?_, ?_⟩, ?_⟩
    · split at mem
      · cases mem
      · rw [mem_singleton] at mem
        rw [mem] at merges
        cases merges
    · rintro ⟨_, _, rfl⟩
      cases merges
    · rintro ⟨code, _, rfl⟩
      cases merges
  simp only [mem_append, not_or] at others
  rw [applyRepairRules, (perm_insertionSort _ _).mem_iff] at proposed
  split at proposed
  · simp only [mem_append, others.1.1, others.1.2, or_false, mem_filterMap] at proposed
    obtain ⟨code, _, made⟩ := proposed
    exact fromRule code made
  · simp only [mem_append, others.1.1, others.1.2, others.2, or_false, mem_filterMap] at proposed
    obtain ⟨code, _, made⟩ := proposed
    exact fromRule code made

/-- Names that stand for one path stand for one partition. -/
lemma combined_iff : (∀ first ∈ inventory.parquetFiles, ∀ second ∈ inventory.parquetFiles,
      relativize root first.path ∈ mergeCandidates root inventory policy →
      relativize root second.path ∈ mergeCandidates root inventory policy →
      hivePartitionSegments root first.path = hivePartitionSegments root second.path) ↔
    ∀ first second, Mergeable inventory policy first → Mergeable inventory policy second →
      hivePartitionSegments root first.path = hivePartitionSegments root second.path := by
  constructor
  · intro same first second mergeable otherMergeable
    exact same first mergeable.listed second otherMergeable.listed
      (mem_mergeCandidates.mpr ⟨first, mergeable, rfl⟩)
      (mem_mergeCandidates.mpr ⟨second, otherMergeable, rfl⟩)
  · intro same first _ second _ candidate otherCandidate
    obtain ⟨file, mergeable, equal⟩ := mem_mergeCandidates.mp candidate
    obtain ⟨other, otherMergeable, otherEqual⟩ := mem_mergeCandidates.mp otherCandidate
    rw [hivePartitionSegments_eq root first.path, hivePartitionSegments_eq root second.path,
      ← equal, ← otherEqual, ← hivePartitionSegments_eq, ← hivePartitionSegments_eq]
    exact same file other mergeable otherMergeable

variable {File Schema Batch Row : Type} {rows : File → Multiset Row} {origin : Row → String}
  {batchRows : Batch → Multiset Row} {tools : Toolkit File Schema Batch} {work : String}
  {working next : Working} {disk after : Disk File} {truncated : File}

/-- What a merge leaves in the working set: its parts hold the rows of the merged files, and other
files are as before. -/
structure Merged (rows : File → Multiset Row) (work : String) (inputs : List String)
    (working next : Working) (disk after : Disk File) (contents : List File) : Prop where
  rows_eq : (contents.map rows).sum = ((presentPaths working inputs).map (rowsAt rows disk)).sum
  parts : ∀ idx file, contents[idx]? = some file →
    next.lookup (mergedName idx) = some (Path.join work (mergedName idx)) ∧
      after.fileAt (Path.join work (mergedName idx)) = some file
  files : ∀ rel path file, next.lookup rel = some path → after.fileAt path = some file →
    (∃ idx, rel = mergedName idx ∧ file ∈ contents) ∨
      working.lookup rel = some path ∧ disk.fileAt path = some file

/-- Every row carries the name of the file that it is in. -/
def Labelled (rows : File → Multiset Row) (origin : Row → String) (working : Working)
    (disk : Disk File) : Prop :=
  ∀ rel path file, working.lookup rel = some path → disk.fileAt path = some file →
    ∀ row ∈ rows file, origin row = rel

/-- The merged files are in one partition, and every row stays in the partition of the file
that it came from. -/
structure KeepsPartitions (root : String) (inventory : DatasetInventory) (inputs : List String)
    (rows : File → Multiset Row) (origin : Row → String) (next : Working) (after : Disk File) :
    Prop where
  combined : ∀ first ∈ inventory.parquetFiles, ∀ second ∈ inventory.parquetFiles,
    relativize root first.path ∈ inputs → relativize root second.path ∈ inputs →
      hivePartitionSegments root first.path = hivePartitionSegments root second.path
  rows_kept : ∀ rel path file, next.lookup rel = some path → after.fileAt path = some file →
    ∀ row ∈ rows file, hivePartitionSegments root (join root rel) =
      hivePartitionSegments root (join root (origin row))

/-- The mergeable files are in no partition, or in one partition and the merge moves no row: fewer
than two of them are in the working set, or those are empty. -/
def OutsidePartitions (root : String) (inventory : DatasetInventory) (policy : EffectivePolicy)
    (rows : File → Multiset Row) (present : List String) (disk : Disk File) : Prop :=
  (∀ file, Mergeable inventory policy file → hivePartitionSegments root file.path = []) ∨
    (∀ first second, Mergeable inventory policy first → Mergeable inventory policy second →
      hivePartitionSegments root first.path = hivePartitionSegments root second.path) ∧
      (present.length < 2 ∨ ∀ path ∈ present, rowsAt rows disk path = 0)

/-- A row of a merged file comes from a mergeable file. -/
lemma exists_mergeable (seeded : Seeded work working disk)
    (labelled : Labelled rows origin working disk) {row : Row}
    (moved : row ∈ ((presentPaths working (mergeCandidates root inventory policy)).map
      (rowsAt rows disk)).sum) :
    ∃ file, Mergeable inventory policy file ∧ hivePartitionSegments root (join root (origin row)) =
        hivePartitionSegments root file.path := by
  obtain ⟨path, present, mem⟩ := mem_sum_map.mp moved
  obtain ⟨rel, candidate, known⟩ := mem_presentPaths.mp present
  obtain ⟨contents, found⟩ := Option.isSome_iff_exists.mp (seeded.present known)
  rw [rowsAt, found] at mem
  obtain ⟨file, mergeable, equal⟩ := mem_mergeCandidates.mp candidate
  refine ⟨file, mergeable, ?_⟩
  rw [labelled rel path contents known found row mem,
    hivePartitionSegments_join (seeded.plain known), hivePartitionSegments_eq, equal]

variable (root) in
lemma rows_kept_iff (labelled : Labelled rows origin working disk) {contents : List File}
    (merged : Merged rows work (mergeCandidates root inventory policy) working next disk after
      contents) :
    (∀ rel path file, next.lookup rel = some path → after.fileAt path = some file →
      ∀ row ∈ rows file, hivePartitionSegments root (join root rel) =
        hivePartitionSegments root (join root (origin row))) ↔
    ∀ row ∈ ((presentPaths working (mergeCandidates root inventory policy)).map
      (rowsAt rows disk)).sum, hivePartitionSegments root (join root (origin row)) = [] := by
  rw [← merged.rows_eq]
  constructor
  · intro kept row moved
    obtain ⟨file, listed, mem⟩ := mem_sum_map.mp moved
    obtain ⟨idx, bound, rfl⟩ := getElem_of_mem listed
    obtain ⟨known, found⟩ := merged.parts idx _ (List.getElem?_eq_getElem bound)
    rw [← kept _ _ _ known found row mem, hivePartitionSegments_mergedName]
  · intro outside rel path file known found row mem
    rcases merged.files rel path file known found with ⟨_, rfl, listed⟩ | ⟨old, there⟩
    · rw [hivePartitionSegments_mergedName, outside row (mem_sum_map.mpr ⟨file, listed, mem⟩)]
    · rw [labelled rel path file old there row mem]

variable [DecidableEq Schema]

lemma replaceFiles_merged (preserving : RowPreserving tools rows batchRows) {bytes : Nat}
    (seeded : Seeded work working disk)
    (returns : Returns (Disk.service truncated).reliable
      (replaceFiles work (Path.join work "_merge_out")
        (mergeParquetFiles tools (mergeTarget work bytes) (presentPaths working inputs)) inputs
        mergedName working) disk next after) :
    ∃ contents, Merged rows work inputs working next disk after contents := by
  have names : OutputNames work (mergeTarget work bytes).outputDir mergedName := mergedNames work
  obtain ⟨_, contents, _, _, _, _, replaced⟩ := replaceFiles_replaces preserving
    (mergeTarget work bytes) (show '/' ∉ "part".toList by decide) names returns
  refine ⟨contents, replaced.rows_eq, fun idx file known => ?_, fun rel path file known found => ?_⟩
  · obtain ⟨entry, there⟩ := replaced.placed.copies idx file known
    rw [Nat.zero_add] at entry there
    refine ⟨entry, ?_⟩
    rw [replaced.fileAt, names.outside]
    exact there
  · rcases replaced.entry seeded names known with ⟨idx, _, listed, rfl, -, there⟩ | ⟨old, same⟩
    · rw [found] at there
      cases there
      exact .inl ⟨idx, rfl, listed⟩
    · have outside := found
      rw [replaced.fileAt, Option.ite_none_left_eq_some, Bool.not_eq_true] at outside
      exact .inr ⟨old, (same outside.1).symm.trans found⟩

/-- A merge keeps partition values exactly if it moves no row out of a partition. -/
theorem merge_keeps_partitions_iff (preserving : RowPreserving tools rows batchRows)
    {scan : ScanReport} {findings dependsOn : List String} {op : ProposedOperation} {bytes : Nat}
    {inputs : List String}
    (proposed : op ∈ applyRepairRules digests root inventory policy scan findings)
    (merges : op.action = .mergeSmallFiles bytes inputs) (seeded : Seeded work working disk)
    (labelled : Labelled rows origin working disk)
    (returns : Returns (Disk.service truncated).reliable
      (applyOperation tools ⟨op.operationId, op.safety, op.action, dependsOn⟩ root work working)
      disk next after) :
    KeepsPartitions root inventory inputs rows origin next after ↔
      OutsidePartitions root inventory policy rows (presentPaths working inputs) disk := by
  obtain rfl := inputs_of_proposed proposed merges
  have alike : (∀ file, Mergeable inventory policy file →
      hivePartitionSegments root file.path = []) →
      ∀ first second, Mergeable inventory policy first → Mergeable inventory policy second →
        hivePartitionSegments root first.path = hivePartitionSegments root second.path :=
    fun outside first second mergeable otherMergeable =>
      (outside first mergeable).trans (outside second otherMergeable).symm
  unfold applyOperation at returns
  dsimp only at returns
  rw [merges] at returns
  unfold mergeSmallFiles at returns
  dsimp only at returns
  split at returns
  · rename_i few
    cases returns.of_pure
    constructor
    · intro keeps
      exact .inr ⟨combined_iff.mp keeps.combined, .inl few⟩
    · intro outside
      refine ⟨combined_iff.mpr (outside.elim alike And.left), ?_⟩
      intro rel path file known found row mem
      rw [labelled rel path file known found row mem]
  · rename_i enough
    obtain ⟨_, merged⟩ := replaceFiles_merged preserving seeded returns
    have kept_iff := rows_kept_iff root labelled merged
    constructor
    · intro keeps
      have same := combined_iff.mp keeps.combined
      by_cases empty : ∀ path ∈ presentPaths working (mergeCandidates root inventory policy),
          rowsAt rows disk path = 0
      · exact .inr ⟨same, .inr empty⟩
      · -- One row is moved, so all mergeable files are outside of partitions.
        left
        push Not at empty
        obtain ⟨path, present, rowsThere⟩ := empty
        obtain ⟨row, mem⟩ := Multiset.exists_mem_of_ne_zero rowsThere
        have moved := mem_sum_map.mpr ⟨path, present, mem⟩
        obtain ⟨source, mergeable, equal⟩ := exists_mergeable seeded labelled moved
        intro file otherMergeable
        rw [same file source otherMergeable mergeable, ← equal]
        exact kept_iff.mp keeps.rows_kept row moved
    · intro outside
      refine ⟨combined_iff.mpr (outside.elim alike And.left), kept_iff.mpr fun row moved => ?_⟩
      rcases outside with outside | ⟨_, few | empty⟩
      · obtain ⟨source, mergeable, equal⟩ := exists_mergeable seeded labelled moved
        rw [equal, outside source mergeable]
      · exact absurd few enough
      · obtain ⟨path, present, mem⟩ := mem_sum_map.mp moved
        rw [empty path present] at mem
        exact absurd mem (Multiset.notMem_zero row)

end

/-! ## Four small files -/

namespace Reference

/-- A working directory `/w` with files at paths of several names. -/
def nestedDisk (entries : List (String × List Nat)) : Disk (List Nat) where
  files := (entries.map fun entry =>
    (⟨["/", "w"] ++ Str.split entry.1 '/', entry.2⟩ :
      Sigma fun _ : List String => List Nat)).toAList
  dirs := [["/", "w"]]

def smallFile (path : String) : ParquetFileMeta where
  path := join "/d" path
  sizeBytes := 10
  numRows := 1
  numRowGroups := 1
  medianRowGroupBytes := 10
  compressionCodecs := ["snappy"]
  schemaSignature := "id=INT64"
  fields := [⟨"id", "INT64", false⟩]
  hasStatistics := true

/-- Four files with one row each, numbered in the order of the names. -/
def numbered (names : List String) : List (String × List Nat) :=
  names.mapIdx fun idx name => (name, [idx])

def inventoryNamed (names : List String) : DatasetInventory :=
  ⟨"/d", names.map smallFile, 4, ["id=INT64"]⟩

def mergeOf (names : List String) : ProposedOperation :=
  buildOp .constant "merge" REPAIR_EXCESSIVE_SMALL_FILES .safe
    (mergeAction "/d" (inventoryNamed names) .standard)

variable {names : List String}

lemma seeded_numbered (ready : ∀ entry ∈ numbered names, IsPlain entry.1 ∧
      (nestedDisk (numbered names)).fileAt (join "/w" entry.1) = some entry.2) :
    Seeded "/w" (workingOf (numbered names)) (nestedDisk (numbered names)) where
  plain := fun known => by
    obtain ⟨_, entry, listed, rfl⟩ := lookup_workingOf known
    exact (ready entry listed).1
  path_eq := fun known => (lookup_workingOf known).1
  present := fun known => by
    obtain ⟨rfl, entry, listed, rfl⟩ := lookup_workingOf known
    rw [(ready entry listed).2]
    rfl

lemma labelled_numbered (ready : ∀ entry ∈ numbered names,
      (nestedDisk (numbered names)).fileAt (join "/w" entry.1) = some entry.2 ∧
        ∀ row ∈ entry.2, names.getD row "" = entry.1) :
    Labelled listRows (fun row => names.getD row "") (workingOf (numbered names))
      (nestedDisk (numbered names)) := by
  intro _ _ _ known found row mem
  obtain ⟨rfl, entry, listed, rfl⟩ := lookup_workingOf known
  rw [(ready entry listed).1] at found
  cases found
  exact (ready entry listed).2 row mem

def partitioned : List String := ["k=1/a", "k=1/b", "k=2/a", "k=2/b"]

lemma proposed_partitioned : mergeOf partitioned ∈ applyRepairRules .constant "/d"
    (inventoryNamed partitioned) .standard ⟨[], []⟩ [REPAIR_EXCESSIVE_SMALL_FILES] := by
  decide +kernel

lemma merges_partitioned :
    (mergeOf partitioned).action = .mergeSmallFiles (256 * 1024 * 1024) partitioned := by
  decide +kernel

/-- The merge of the files returns with a working set that passes a test. -/
def Merges (names : List String) (good : Working → Bool) : Prop :=
  ∃ next after, Returns (Disk.service ([] : List Nat)).reliable (applyOperation listTools
      ⟨(mergeOf names).operationId, (mergeOf names).safety, (mergeOf names).action, []⟩ "/d" "/w"
      (workingOf (numbered names))) (nestedDisk (numbered names)) next after ∧ good next = true

lemma partitioned_run : Merges partitioned fun _ => true :=
  exists_returns_of_eval (by decide +kernel)

/-- Four files of two partitions are merged. -/
theorem partitions_combined :
    mergeOf partitioned ∈ applyRepairRules .constant "/d" (inventoryNamed partitioned)
      .standard ⟨[], []⟩ [REPAIR_EXCESSIVE_SMALL_FILES] ∧
    (mergeOf partitioned).action = .mergeSmallFiles (256 * 1024 * 1024) partitioned ∧
    RowPreserving listTools listRows (fun row => {row}) ∧
    Seeded "/w" (workingOf (numbered partitioned)) (nestedDisk (numbered partitioned)) ∧
    Labelled listRows (fun row => partitioned.getD row "") (workingOf (numbered partitioned))
      (nestedDisk (numbered partitioned)) ∧
    ∃ next after, Returns (Disk.service ([] : List Nat)).reliable (applyOperation listTools
          ⟨(mergeOf partitioned).operationId, (mergeOf partitioned).safety,
            (mergeOf partitioned).action, []⟩ "/d" "/w"
          (workingOf (numbered partitioned))) (nestedDisk (numbered partitioned)) next after ∧
      ¬ KeepsPartitions "/d" (inventoryNamed partitioned) partitioned listRows
        (fun row => partitioned.getD row "") next after := by
  refine ⟨proposed_partitioned, merges_partitioned, listTools_preserving,
    seeded_numbered (by decide +kernel), labelled_numbered (by decide +kernel), ?_⟩
  obtain ⟨next, after, returns, -⟩ := partitioned_run
  refine ⟨next, after, returns, fun keeps => ?_⟩
  have same := keeps.combined (smallFile "k=1/a") (by decide +kernel) (smallFile "k=2/a")
    (by decide +kernel) (by decide +kernel) (by decide +kernel)
  revert same
  decide +kernel

def flat : List String := ["a", "b", "c", "d"]

lemma flat_run : Merges flat fun next => presentPaths next flat = [] :=
  exists_returns_of_eval (by decide +kernel)

theorem flat_files_keep_partitions : ∃ next after,
    Returns (Disk.service ([] : List Nat)).reliable (applyOperation listTools
        ⟨(mergeOf flat).operationId, (mergeOf flat).safety, (mergeOf flat).action, []⟩ "/d" "/w"
        (workingOf (numbered flat))) (nestedDisk (numbered flat)) next after ∧
    KeepsPartitions "/d" (inventoryNamed flat) flat listRows (fun row => flat.getD row "") next
      after := by
  obtain ⟨next, after, returns, -⟩ := flat_run
  have proposed : mergeOf flat ∈ applyRepairRules .constant "/d" (inventoryNamed flat)
      .standard ⟨[], []⟩ [REPAIR_EXCESSIVE_SMALL_FILES] := by decide +kernel
  have merges : (mergeOf flat).action = .mergeSmallFiles (256 * 1024 * 1024) flat := by
    decide +kernel
  have outside : ∀ file ∈ (inventoryNamed flat).parquetFiles,
      hivePartitionSegments "/d" file.path = [] := by decide +kernel
  exact ⟨next, after, returns, (merge_keeps_partitions_iff listTools_preserving proposed merges
    (seeded_numbered (by decide +kernel)) (labelled_numbered (by decide +kernel)) returns).mpr
    (.inl fun file mergeable => outside file mergeable.listed)⟩

end Reference

end Parqonaut.Repair
