import Parqonaut.Repair.MergeRows

/-!
# Row conservation

When none of the names that an operation writes is taken before, the operation keeps the rows of
the working directory.
-/

namespace Parqonaut.Repair

open Effects Rust Fallible List AList Option Nat String Path Disk

section

variable {File Schema Batch Row : Type}

/-- Rows of all files below the working directory. -/
def workRows (rows : File → Multiset Row) (work : String) (disk : Disk File) : Multiset Row :=
  total (fun place file => if below (resolve work) place then rows file else 0) disk.files

/-- The working set as it is seeded: names are relative paths of plain names, with their files in
the working directory. -/
structure Seeded (work : String) (working : Working) (disk : Disk File) : Prop where
  plain : ∀ {rel path}, working.lookup rel = some path → IsPlain rel
  path_eq : ∀ {rel path}, working.lookup rel = some path → path = join work rel
  present : ∀ {rel path}, working.lookup rel = some path → (disk.fileAt path).isSome = true

/-! ## Fresh names -/

/-- No file is in the place of a temporary file. -/
def FreshTemporaries (extension : String) (paths : List String) (working : Working)
    (disk : Disk File) : Prop :=
  ∀ rel ∈ paths, ∀ path, working.lookup rel = some path →
    disk.fileAt (withExtension path extension) = none

/-- No name is consumed twice, the scratch directory is empty, and no file that is not consumed is
in the place of an output. -/
structure FreshOutputs (work scratch : String) (consumed : List String) (nameOf : Nat → String)
    (working : Working) (disk : Disk File) : Prop where
  once : (consumed.filter fun rel => (working.lookup rel).isSome).Nodup
  scratch_empty : ∀ place, below (resolve scratch) place = true → disk.files.lookup place = none
  outputs : ∀ idx, disk.fileAt (join work (nameOf idx)) = none ∨
    nameOf idx ∈ consumed ∧ (working.lookup (nameOf idx)).isSome = true

/-- The names that an action generates are free before it runs. -/
def Fresh (work : String) (working : Working) (disk : Disk File) : RepairAction → Prop
  | .mergeSmallFiles _ inputPaths =>
    2 ≤ (presentPaths working inputPaths).length →
      FreshOutputs work (join work "_merge_out") inputPaths mergedName working disk
  | .splitLargeFile _ inputPath =>
    (working.lookup inputPath).isSome = true ∧
      FreshOutputs work (join work "_split_out") [inputPath] (splitName inputPath) working disk
  | .resizeRowGroups _ targetPaths | .recompress _ targetPaths
  | .rebuildStatistics targetPaths =>
    FreshTemporaries "parqonaut-tmp.parquet" (targetPathsAll working targetPaths) working disk
  | .castColumn .. | .alignSchema .. =>
    FreshTemporaries "parqonaut-cast.parquet" working.names working disk
  | .renameColumn .. =>
    FreshTemporaries "parqonaut-rename.parquet" working.names working disk
  | .repartition _ => True

variable {rows : File → Multiset Row} {batchRows : Batch → Multiset Row}
  {tools : Toolkit File Schema Batch} {work : String} {working next : Working}
  {disk after : Disk File} {truncated : File}

/-! ## Rewriting in place -/

variable {output : String}

lemma createOutputDir_files (returns : Returns (service truncated) (createOutputDir output) disk ()
      after) : after.files = disk.files := by
  unfold createOutputDir at returns
  split at returns
  · exact (after_createDirAll (serve_of_returns_transformCall returns)).1
  · rw [(returns_pure.mp returns).2]

variable {convert : File → Except String File}

lemma transformFile_writes {input : String}
    (returns : Returns (service truncated) (transformFile convert input output) disk () after) :
    ∃ contents result, disk.fileAt input = some contents ∧ convert contents = .ok result ∧
      after.files = disk.files.insert (resolve output) result := by
  obtain ⟨contents, _, read, converting⟩ := returns.of_bind
  obtain ⟨found, rfl⟩ := serve_read_eq_ok.mp (serve_of_returns_transformCall read)
  obtain ⟨result, _, converted, preparing⟩ := converting.of_bind
  obtain ⟨converts, rfl⟩ := value_of_returns_parquetResult converted
  obtain ⟨_, _, making, writing⟩ := preparing.of_bind
  have sameFiles := createOutputDir_files making
  have written := after_write (serve_of_returns_transformCall writing)
  rw [written, ← sameFiles]
  exact ⟨contents, result, found, converts, rfl⟩

variable {src : String}

/-- One rewrite through a free temporary place replaces the contents of one file. -/
lemma rewrite_replaces {tmp : String} {mid : Disk File} (free : disk.fileAt tmp = none)
    (writing : Returns (service truncated) (transformFile convert src tmp) disk () mid)
    (moving : Returns (service truncated) (fsCall (.rename tmp src)) mid () after) :
    ∃ contents result, disk.fileAt src = some contents ∧ convert contents = .ok result ∧
      ∀ place, after.files.lookup place =
        (disk.files.insert (resolve src) result).lookup place := by
  obtain ⟨contents, result, found, converts, written⟩ := transformFile_writes writing
  have apart : resolve tmp ≠ resolve src := by
    intro same
    rw [Disk.fileAt, same] at free
    rw [Disk.fileAt, free] at found
    cases found
  obtain ⟨_, there, rfl⟩ := after_rename (serve_of_returns_fsCall moving) apart
  rw [Disk.fileAt, written, lookup_insert] at there
  cases there
  refine ⟨contents, result, found, converts, fun place => ?_⟩
  by_cases atTmp : place = resolve tmp
  · rw [atTmp, lookup_erase, lookup_insert_ne apart]
    exact free.symm
  · rw [lookup_erase_ne atTmp, written]
    by_cases atSrc : place = resolve src
    · rw [atSrc, lookup_insert, lookup_insert]
    · rw [lookup_insert_ne atSrc, lookup_insert_ne atTmp, lookup_insert_ne atSrc]

/-- The same places hold files, with the same rows in the working directory. -/
structure SameRows (rows : File → Multiset Row) (work : String) (before after : Disk File) :
    Prop where
  rows_eq : workRows rows work after = workRows rows work before
  occupied : ∀ place, (after.files.lookup place).isSome = (before.files.lookup place).isSome

lemma SameRows.of_replaced {contents result : File}
    (found : disk.fileAt src = some contents) (equal : rows result = rows contents)
    (replaced : ∀ place, after.files.lookup place =
      (disk.files.insert (resolve src) result).lookup place) :
    SameRows rows work disk after where
  rows_eq := by
    rw [Disk.fileAt] at found
    rw [workRows, total_congr _ replaced, total_insert, workRows,
      @total_erase _ _ _ disk.files _ (resolve src), found, add_comm]
    simp [equal]
  occupied := by
    intro place
    rw [replaced]
    by_cases atSrc : place = resolve src
    · rw [Disk.fileAt] at found
      rw [atSrc, lookup_insert, found]
      rfl
    · rw [lookup_insert_ne atSrc]

lemma rewriteEach_conserves {extension missing : String}
    (preserves : ∀ {file result}, convert file = .ok result → rows result = rows file)
    {paths : List String} (fresh : FreshTemporaries extension paths working disk)
    (returns : Returns (service truncated)
      (rewriteEach extension missing (transformFile convert) working paths) disk () after) :
    SameRows rows work disk after := by
  induction paths generalizing disk with
  | nil =>
    obtain ⟨_, rfl⟩ := returns_pure.mp returns
    exact ⟨rfl, fun _ => rfl⟩
  | cons rel _ ih =>
    unfold rewriteEach at returns
    cases entry : working.lookup rel with
    | none =>
      rw [entry] at returns
      cases returns.of_throw
    | some src =>
      rw [entry] at returns
      obtain ⟨_, _, writing, continuing⟩ := returns.of_bind
      obtain ⟨_, moved, moving, later⟩ := continuing.of_bind
      obtain ⟨_, _, found, converts, replaced⟩ :=
        rewrite_replaces (fresh rel mem_cons_self src entry) (returns_mapErr.mp writing) moving
      have first : SameRows rows work disk moved :=
        .of_replaced found (preserves converts) replaced
      have others := ih (fun other mem path known => by
        have free := fresh other (mem_cons_of_mem _ mem) path known
        rw [Disk.fileAt, ← isNone_iff_eq_none, ← not_isSome, first.occupied,
          not_isSome, isNone_iff_eq_none]
        exact free) later
      exact ⟨others.rows_eq.trans first.rows_eq,
        fun place => (others.occupied place).trans (first.occupied place)⟩

/-! ## Removing the consumed files -/

lemma after_of_returns_fsTry {request : FsRequest File}
    (returns : Returns (service truncated).reliable (fsTry request) disk ()
      after) : after = (serve truncated request disk).2 := by
  obtain ⟨_, _, answers, rest⟩ := returns_request_bind.mp returns
  obtain ⟨_, rfl⟩ := returns_pure.mp rest
  exact congrArg Prod.snd (Service.answers_reliable.mp answers)

variable {rel path : String}

lemma Seeded.resolve_ne (seeded : Seeded work working disk) {other otherPath : String}
    (known : working.lookup rel = some path) (otherKnown : working.lookup other = some otherPath)
    (different : rel ≠ other) : resolve path ≠ resolve otherPath := by
  rw [seeded.path_eq known, seeded.path_eq otherKnown]
  intro same
  exact different (resolve_join_inj (seeded.plain known) (seeded.plain otherKnown) same)

variable {consumed : List String}

lemma mem_presentPaths :
    path ∈ presentPaths working consumed ↔ ∃ rel ∈ consumed, working.lookup rel = some path := by
  simp [presentPaths]

/-- The consumed names and their files are gone; all other files stay. -/
structure Dropped (consumed : List String) (working kept : Working) (before after : Disk File) :
    Prop where
  dirs : after.dirs = before.dirs
  others : ∀ place, (∀ path ∈ presentPaths working consumed, place ≠ resolve path) →
    after.files.lookup place = before.files.lookup place
  gone : ∀ path ∈ presentPaths working consumed, after.fileAt path = none
  entries : ∀ rel, kept.lookup rel = if rel ∈ consumed then none else working.lookup rel

variable {kept : Working}

lemma Dropped.free (dropped : Dropped consumed working kept disk after) {place : List String}
    (empty : disk.files.lookup place = none) : after.files.lookup place = none := by
  by_cases consumedPlace : ∃ path ∈ presentPaths working consumed, place = resolve path
  · obtain ⟨path, mem, rfl⟩ := consumedPlace
    exact dropped.gone path mem
  · rw [dropped.others place fun path mem same => consumedPlace ⟨path, mem, same⟩, empty]

lemma removeConsumed_drops (returns : Returns (service truncated).reliable
      (removeConsumed consumed working) disk kept after) :
    Dropped consumed working kept disk after := by
  induction consumed generalizing working disk with
  | nil =>
    cases returns.of_pure
    exact ⟨rfl, fun _ _ => rfl, by simp [presentPaths], by simp⟩
  | cons rel rest ih =>
    unfold removeConsumed at returns
    cases known : working.lookup rel with
    | none =>
      rw [known] at returns
      have same : presentPaths working (rel :: rest) = presentPaths working rest := by
        simp [presentPaths, known]
      obtain ⟨dirs, others, gone, entries⟩ := ih returns
      refine ⟨dirs, by rwa [same], by rwa [same], fun other => ?_⟩
      rw [entries other]
      by_cases here : other = rel
      · rw [here, known, ite_self, if_pos mem_cons_self]
      · simp [here]
    | some path =>
      rw [known] at returns
      obtain ⟨_, _, removing, later⟩ := returns.of_bind
      obtain rfl := after_of_returns_fsTry removing
      obtain ⟨dirs, lookups⟩ := after_removeFile truncated disk path
      have dropped := ih later
      have goneHere : after.fileAt path = none := dropped.free (by rw [lookups, if_pos rfl])
      -- The name is erased, so that the rest of the list finds fewer files.
      refine ⟨dropped.dirs.trans dirs, fun place outside => ?_, fun other mem => ?_,
        fun other => ?_⟩
      · simp only [mem_presentPaths, mem_cons] at outside
        rw [dropped.others place, lookups, if_neg (outside path ⟨rel, .inl rfl, known⟩)]
        intro other mem
        obtain ⟨name, listed, found⟩ := mem_presentPaths.mp mem
        exact outside other ⟨name, .inr listed, (lookup_erase_eq_some.mp found).2⟩
      · obtain ⟨name, listed, found⟩ := mem_presentPaths.mp mem
        by_cases here : name = rel
        · rw [here, known] at found
          cases found
          exact goneHere
        · have later := mem_of_ne_of_mem here listed
          exact dropped.gone other
            (mem_presentPaths.mpr ⟨name, later, lookup_erase_eq_some.mpr ⟨here, found⟩⟩)
      · rw [dropped.entries other]
        by_cases here : other = rel
        · rw [here, lookup_erase, ite_self, if_pos mem_cons_self]
        · simp [here, lookup_erase_ne here]

/-- The files of names that are consumed once are in different places. -/
lemma Seeded.places_nodup (seeded : Seeded work working disk)
    (once : (consumed.filter fun rel => (working.lookup rel).isSome).Nodup) :
    ((presentPaths working consumed).map resolve).Nodup := by
  have present : presentPaths working consumed =
      (consumed.filter fun rel => (working.lookup rel).isSome).filterMap working.lookup := by
    rw [presentPaths, filterMap_filter]
    congr 1
    funext rel
    cases working.lookup rel <;> rfl
  rw [present, map_filterMap]
  refine once.filterMap fun rel other place found otherFound => ?_
  obtain ⟨_, known, rfl⟩ := map_eq_some_iff.mp found
  obtain ⟨_, otherKnown, same⟩ := map_eq_some_iff.mp otherFound
  by_contra different
  exact seeded.resolve_ne known otherKnown different same.symm

/-- The rows of the consumed files are those that the directory loses. -/
lemma Dropped.total (measure : List String → File → Multiset Row)
    (dropped : Dropped consumed working kept disk after)
    (distinct : ((presentPaths working consumed).map resolve).Nodup) :
    total measure disk.files = total measure after.files +
      ((presentPaths working consumed).map fun path =>
        (disk.fileAt path).elim 0 (measure (resolve path))).sum := by
  have added := total_of_added measure distinct (fun place listed => by
      obtain ⟨path, mem, rfl⟩ := mem_map.mp listed
      exact dropped.gone path mem)
    fun place outside => (dropped.others place fun path mem same =>
      outside (mem_map.mpr ⟨path, mem, same.symm⟩)).symm
  rwa [List.map_map] at added

/-! ## Copying the outputs -/

/-- New names for outputs: plain, different from each other and outside of the scratch
directory. -/
structure OutputNames (work scratch : String) (nameOf : Nat → String) : Prop where
  plain : ∀ idx, IsPlain (nameOf idx)
  injective : Function.Injective nameOf
  outside : ∀ idx, below (resolve scratch) (resolve (join work (nameOf idx))) = false

/-- The outputs were copied to their new names, over whatever was there. -/
structure Placed (work : String) (nameOf : Nat → String) (idx : Nat) (outputs : List String)
    (contents : List File) (kept filled : Working) (before after : Disk File) : Prop where
  sources : outputs.map before.fileAt = contents.map some
  dirs : after.dirs = before.dirs
  copies : ∀ offset file, contents[offset]? = some file →
    filled.lookup (nameOf (idx + offset)) = some (join work (nameOf (idx + offset))) ∧
      after.fileAt (join work (nameOf (idx + offset))) = some file
  others : ∀ place, (∀ offset < contents.length,
      place ≠ resolve (join work (nameOf (idx + offset)))) →
    after.files.lookup place = before.files.lookup place
  entries : ∀ rel, (∀ offset < contents.length, rel ≠ nameOf (idx + offset)) →
    filled.lookup rel = kept.lookup rel

variable {scratch : String} {outputs : List String}

lemma copyOutputs_places {nameOf : Nat → String}
    (names : OutputNames work scratch nameOf) {idx : Nat} {filled : Working}
    (inside : ∀ output ∈ outputs, below (resolve scratch) (resolve output) = true)
    (returns : Returns (service truncated) (copyOutputs work nameOf idx outputs kept)
      disk filled after) :
    ∃ contents, Placed work nameOf idx outputs contents kept filled disk after := by
  induction outputs generalizing idx kept disk with
  | nil =>
    cases returns.of_pure
    exact ⟨[], rfl, rfl, fun _ _ found => by simp at found, fun _ _ => rfl, fun _ _ => rfl⟩
  | cons output rest ih =>
    obtain ⟨_, _, copying, later⟩ := returns.of_bind
    have apart : ∀ {other}, other ∈ output :: rest →
        resolve other ≠ resolve (join work (nameOf idx)) := by
      intro other listed same
      have within := inside other listed
      rw [same, names.outside idx] at within
      cases within
    obtain ⟨file, found, rfl⟩ :=
      after_copy (serve_of_returns_fsCall copying) (apart mem_cons_self)
    obtain ⟨contents, sources, dirs, copies, others, entries⟩ :=
      ih (fun other listed => inside other (mem_cons_of_mem _ listed)) later
    have shift : ∀ offset, idx + 1 + offset = idx + (offset + 1) := fun offset => by omega
    simp only [shift] at others entries
    have differs : ∀ offset, nameOf idx ≠ nameOf (idx + (offset + 1)) := by
      intro offset same
      have equal := names.injective same
      omega
    refine ⟨file :: contents, ?_, dirs, fun offset other known => ?_, fun place outside => ?_,
      fun rel outside => ?_⟩
    · rw [map_cons, map_cons, found, ← sources]
      congr 1
      apply map_congr_left
      intro other listed
      have within := mem_cons_of_mem output listed
      rw [Disk.fileAt, Disk.fileAt, lookup_insert_ne (apart within)]
    · cases offset with
      | zero =>
        cases known
        refine ⟨?_, ?_⟩
        · rw [Nat.add_zero, entries _ fun offset _ => differs offset, lookup_insert]
        · rw [Nat.add_zero, Disk.fileAt, others _ fun offset _ same => differs offset
            (resolve_join_inj (names.plain _) (names.plain _) same), lookup_insert]
      | succ offset =>
        rw [← shift]
        exact copies offset other known
    · have here : place ≠ resolve (join work (nameOf idx)) :=
        outside 0 (succ_pos _)
      rw [others place fun offset bound => outside (offset + 1) (succ_lt_succ bound),
        lookup_insert_ne here]
    · have here : rel ≠ nameOf idx := outside 0 (succ_pos _)
      rw [entries rel fun offset bound => outside (offset + 1) (succ_lt_succ bound),
        lookup_insert_ne here]

/-! ## Replacing files -/

/-- Rows in the working directory outside of the scratch directory. -/
def keptMeasure (rows : File → Multiset Row) (work scratch : String) (place : List String)
    (file : File) : Multiset Row :=
  if !below (resolve scratch) place then
    if below (resolve work) place then rows file else 0
  else 0

variable {file : File}

lemma keptMeasure_scratch {place : List String} (inside : below (resolve scratch) place = true) :
    keptMeasure rows work scratch place file = 0 := by
  simp [keptMeasure, inside]

lemma keptMeasure_join (plain : IsPlain rel)
    (outside : below (resolve scratch) (resolve (join work rel)) = false) :
    keptMeasure rows work scratch (resolve (join work rel)) file = rows file := by
  have inside : below (resolve work) (resolve (join work rel)) = true := by
    obtain ⟨_, name, rfl, closed, free⟩ := exists_dir_name rel
    obtain ⟨pieces, splits⟩ := split_dir closed
    rw [resolve_join plain, splits name free, below_iff]
    cases pieces with
    | nil => exact ⟨name, [], rfl⟩
    | cons piece rest => exact ⟨piece, rest ++ [name], by simp⟩
  simp [keptMeasure, outside, inside]

lemma Finished.map_fileAt {target : MergeTarget} {start : Disk File}
    {total : Multiset Row} (finished : Finished rows target start outputs total disk) :
    (∀ output ∈ outputs, ∃ idx, output = target.partPath idx) ∧
      ∃ contents : List File, outputs.map disk.fileAt = contents.map some ∧
        total = (contents.map rows).sum := by
  obtain ⟨_, contents, rfl, holds, sum⟩ := finished
  refine ⟨fun output listed => ?_, contents, ?_, sum⟩
  · obtain ⟨idx, _, rfl⟩ := mem_map.mp listed
    exact ⟨idx, rfl⟩
  · apply ext_getElem (by simp)
    intro idx _ inside
    simp only [getElem_map, getElem_range]
    rw [List.length_map] at inside
    exact holds idx _ (getElem?_eq_getElem inside)

/-- A replacement that returned: the consumed files are gone, the outputs are copied, and the
scratch directory is removed. -/
structure Replaced (rows : File → Multiset Row) (work scratch : String) (consumed : List String)
    (nameOf : Nat → String) (working next : Working) (outputs : List String)
    (contents : List File) (disk merged removed copied after : Disk File) (kept : Working) :
    Prop where
  inside : ∀ output ∈ outputs, below (resolve scratch) (resolve output) = true
  only : OnlyOutputs disk outputs merged
  rows_eq : (contents.map rows).sum = ((presentPaths working consumed).map (rowsAt rows disk)).sum
  dropped : Dropped consumed working kept merged removed
  placed : Placed work nameOf 0 outputs contents kept next removed copied
  cleaned : after.files = filterFiles (fun place => !below (resolve scratch) place) copied.files

section

variable {nameOf : Nat → String} {merged removed copied : Disk File} {contents : List File}

/-- The scratch directory is empty and the files of the working set are there. -/
lemma Seeded.outside_scratch (seeded : Seeded work working disk)
    (fresh : FreshOutputs work scratch consumed nameOf working disk)
    (known : working.lookup rel = some path) :
    below (resolve scratch) (resolve path) = false := by
  by_contra inside
  have empty := fresh.scratch_empty _ (Bool.not_eq_false _ ▸ inside)
  have present := seeded.present known
  rw [Disk.fileAt, empty] at present
  cases present

section

variable (replaced : Replaced rows work scratch consumed nameOf working next outputs contents disk
  merged removed copied after kept)

include replaced

lemma Replaced.outside {place : List String} (outside : below (resolve scratch) place = false) :
    merged.files.lookup place = disk.files.lookup place := by
  apply replaced.only
  rintro output listed rfl
  rw [replaced.inside output listed] at outside
  cases outside

lemma Replaced.fileAt (path : String) :
    after.fileAt path = if below (resolve scratch) (resolve path) then none
      else copied.fileAt path := by
  rw [Disk.fileAt, replaced.cleaned, Disk.lookup_filterFiles]
  cases below (resolve scratch) (resolve path) <;> rfl

variable (seeded : Seeded work working disk) (names : OutputNames work scratch nameOf)

include seeded names

/-- A name of the new working set is that of an output, or that of a file that was not
consumed. -/
lemma Replaced.entry (known : next.lookup rel = some path) :
    (∃ idx file, file ∈ contents ∧ rel = nameOf idx ∧ path = join work rel ∧
        after.fileAt path = some file) ∨
      working.lookup rel = some path ∧ (below (resolve scratch) (resolve path) = false →
          after.fileAt path = disk.fileAt path) := by
  by_cases output : ∃ idx < contents.length, rel = nameOf (0 + idx)
  · obtain ⟨idx, bound, rfl⟩ := output
    obtain ⟨entry, there⟩ := replaced.placed.copies idx _ (getElem?_eq_getElem bound)
    rw [known] at entry
    cases entry
    refine .inl ⟨_, _, getElem_mem bound, rfl, rfl, ?_⟩
    rw [replaced.fileAt, names.outside]
    exact there
  · have new : ∀ idx < contents.length, rel ≠ nameOf (0 + idx) :=
      fun idx bound same => output ⟨idx, bound, same⟩
    rw [replaced.placed.entries rel new, replaced.dropped.entries rel,
      ite_none_left_eq_some] at known
    obtain ⟨notConsumed, known⟩ := known
    refine .inr ⟨known, fun outside => ?_⟩
    rw [replaced.fileAt, outside, if_neg Bool.false_ne_true, Disk.fileAt, replaced.placed.others,
      replaced.dropped.others, replaced.outside outside, Disk.fileAt]
    · intro _ mem
      obtain ⟨_, listed, otherKnown⟩ := mem_presentPaths.mp mem
      exact seeded.resolve_ne known otherKnown fun equal => notConsumed (equal ▸ listed)
    · intro idx bound equal
      rw [seeded.path_eq known] at equal
      exact new idx bound (resolve_join_inj (seeded.plain known) (names.plain _) equal)

variable (fresh : FreshOutputs work scratch consumed nameOf working disk)

include fresh

lemma Replaced.seeds : Seeded work next after := by
  have entry : ∀ {rel path}, next.lookup rel = some path →
      IsPlain rel ∧ path = join work rel ∧ (after.fileAt path).isSome = true := by
    intro _ _ known
    rcases replaced.entry seeded names known with ⟨idx, _, -, rfl, rfl, there⟩ | ⟨old, same⟩
    · exact ⟨names.plain idx, rfl, by rw [there]; rfl⟩
    · refine ⟨seeded.plain old, seeded.path_eq old, ?_⟩
      rw [same (seeded.outside_scratch fresh old)]
      exact seeded.present old
  exact ⟨fun known => (entry known).1, fun known => (entry known).2.1,
    fun known => (entry known).2.2⟩

/-- After the removal every output place is free. -/
lemma Replaced.free (idx : Nat) : removed.fileAt (join work (nameOf idx)) = none := by
  rcases fresh.outputs idx with free | ⟨listed, known⟩
  · exact replaced.dropped.free ((replaced.outside (names.outside idx)).trans free)
  · obtain ⟨path, known⟩ := isSome_iff_exists.mp known
    rw [← seeded.path_eq known]
    exact replaced.dropped.gone path (mem_presentPaths.mpr ⟨_, listed, known⟩)

/-- The copies add the rows of the outputs. -/
lemma Replaced.copied_total : total (keptMeasure rows work scratch) copied.files =
    total (keptMeasure rows work scratch) removed.files + (contents.map rows).sum := by
  have distinct : ((range contents.length).map fun idx =>
      resolve (join work (nameOf (0 + idx)))).Nodup := by
    refine nodup_range.map fun first second same => ?_
    exact Nat.add_left_cancel
      (names.injective (resolve_join_inj (names.plain _) (names.plain _) same))
  rw [total_of_added (keptMeasure rows work scratch) distinct]
  · rw [List.map_map]
    congr 2
    apply ext_getElem (by simp)
    intro idx bound inside
    have there := (replaced.placed.copies idx _ (getElem?_eq_getElem (by simpa using inside))).2
    rw [Disk.fileAt] at there
    simp only [getElem_map, getElem_range, Function.comp_apply, there, elim_some]
    exact keptMeasure_join (names.plain _) (names.outside _)
  · intro place listed
    obtain ⟨idx, -, rfl⟩ := mem_map.mp listed
    exact replaced.free seeded names fresh _
  · intro place outside
    exact replaced.placed.others place fun idx bound same =>
      outside (mem_map.mpr ⟨idx, mem_range.mpr bound, same.symm⟩)

omit names in
/-- The removal takes away the rows of the consumed files. -/
lemma Replaced.merged_total : total (keptMeasure rows work scratch) merged.files =
    total (keptMeasure rows work scratch) removed.files +
      ((presentPaths working consumed).map (rowsAt rows disk)).sum := by
  rw [replaced.dropped.total _ (seeded.places_nodup fresh.once)]
  congr 2
  apply map_congr_left
  intro _ mem
  obtain ⟨rel, _, known⟩ := mem_presentPaths.mp mem
  have outside := seeded.outside_scratch fresh known
  rw [rowsAt, Disk.fileAt, replaced.outside outside, Disk.fileAt]
  rw [seeded.path_eq known] at outside ⊢
  cases disk.files.lookup (resolve (join work rel)) with
  | none => rfl
  | some => exact keptMeasure_join (seeded.plain known) outside

lemma Replaced.workRows_eq : workRows rows work after = workRows rows work disk := by
  calc workRows rows work after = total (keptMeasure rows work scratch) copied.files := by
        rw [workRows, replaced.cleaned, total_filterFiles]
        rfl
    _ = total (keptMeasure rows work scratch) merged.files := by
        rw [replaced.copied_total seeded names fresh, replaced.merged_total seeded fresh,
          replaced.rows_eq]
    _ = total (keptMeasure rows work scratch) disk.files :=
        total_congr_outside _ (below (resolve scratch))
          (fun _ _ inside => keptMeasure_scratch inside) fun _ => replaced.outside
    _ = workRows rows work disk := by
        apply total_measure_congr
        intro place _ found
        have outside : below (resolve scratch) place = false := by
          by_contra inside
          rw [fresh.scratch_empty place (Bool.not_eq_false _ ▸ inside)] at found
          cases found
        simp [keptMeasure, outside]

end

variable [DecidableEq Schema]

/-- An output that was an input would be gone when it is copied, so the outputs of a replacement
that returns hold the rows of its inputs. -/
lemma replaceFiles_replaces (preserving : RowPreserving tools rows batchRows)
    (target : MergeTarget) (base : '/' ∉ target.basename.toList)
    (names : OutputNames work target.outputDir nameOf)
    (returns : Returns (service truncated).reliable (replaceFiles work target.outputDir
        (mergeParquetFiles tools target (presentPaths working consumed)) consumed nameOf working)
      disk next after) :
    ∃ outputs contents merged removed copied kept, Replaced rows work target.outputDir consumed
      nameOf working next outputs contents disk merged removed copied after kept := by
  simp only [replaceFiles, returns_bind, returns_pure] at returns
  obtain ⟨_, _, making, outputs, merged, merging, kept, removed, removing, _, copied,
    copying, _, _, cleaning, rfl, rfl⟩ := returns
  obtain ⟨sameFiles, _, scratchDir⟩ :=
    after_createDirAll (serve_of_returns_fsCall making.of_reliable)
  obtain rfl := after_of_returns_fsTry cleaning
  obtain ⟨only, _, finished, counts⟩ := mergeParquetFiles_writes preserving base
    (returns_mapErr.mp merging).of_reliable
  obtain ⟨partPaths, contents, holds, rfl⟩ := finished.map_fileAt
  have dropped := removeConsumed_drops removing
  have inside : ∀ output ∈ outputs, below (resolve target.outputDir) (resolve output) = true := by
    intro output listed
    obtain ⟨idx, rfl⟩ := partPaths output listed
    exact target.below_partPath base idx
  obtain ⟨copies, placed⟩ := copyOutputs_places names inside copying.of_reliable
  have apart : ∀ input ∈ presentPaths working consumed, ∀ output ∈ outputs,
      resolve input ≠ resolve output := by
    intro input mem output listed same
    have there : removed.fileAt output ∈ copies.map some :=
      placed.sources ▸ mem_map_of_mem listed
    obtain ⟨_, _, found⟩ := mem_map.mp there
    have gone := dropped.gone input mem
    rw [Disk.fileAt, same] at gone
    rw [Disk.fileAt, gone] at found
    cases found
  have same : copies = contents := by
    apply (map_injective_iff.mpr (some_injective File))
    rw [← placed.sources, ← holds]
    apply map_congr_left
    intro output listed
    rw [Disk.fileAt, Disk.fileAt, dropped.others _ fun path mem equal =>
      apart path mem output listed equal.symm]
  subst same
  refine ⟨outputs, copies, merged, removed, copied, kept, inside, fun place outside => ?_, ?_,
    dropped, placed, after_removeDirAll ?_⟩
  · rw [only place outside, sameFiles]
  · rw [counts apart]
    congr 1
    apply map_congr_left
    intro _ _
    rw [rowsAt, rowsAt, Disk.fileAt, Disk.fileAt, sameFiles]
  · rw [placed.dirs, dropped.dirs]
    exact finished.outside.dirs scratchDir

end

variable [DecidableEq Schema]

/-! ## Output names -/

private lemma parquetSuffix_length : 2 < ".parquet".toList.length := by decide

lemma isName_mergedName (idx : Nat) : IsName (mergedName idx) := by
  apply isName_of_length
  · simp only [mergedName, toList_append, List.length_append]
    have := parquetSuffix_length
    omega
  · simp only [mergedName, toList_append, mem_append, not_or]
    refine ⟨⟨by decide, fun mem => ?_⟩, by decide⟩
    exact absurd (Str.isDigit_of_mem_zeroPadded mem) (by decide)

lemma mergedName_injective : Function.Injective mergedName := by
  intro _ _ same
  exact Str.zeroPadded_injective
    ((String.append_right_inj _).mp ((String.append_left_inj _).mp same))

/-- What a split adds to the name of its input. -/
def splitSuffix (idx : Nat) : String := ".split-" ++ Str.zeroPadded 4 idx ++ ".parquet"

lemma splitName_eq (inputPath : String) (idx : Nat) :
    splitName inputPath idx = inputPath ++ splitSuffix idx := by
  simp only [splitName, splitSuffix, String.append_assoc]

lemma slash_not_mem_splitSuffix (idx : Nat) : '/' ∉ (splitSuffix idx).toList := by
  simp only [splitSuffix, toList_append, mem_append, not_or]
  refine ⟨⟨by decide, fun mem => ?_⟩, by decide⟩
  exact absurd (Str.isDigit_of_mem_zeroPadded mem) (by decide)

lemma splitSuffix_length (idx : Nat) : 2 < (splitSuffix idx).toList.length := by
  simp only [splitSuffix, toList_append, List.length_append]
  have := parquetSuffix_length
  omega

lemma splitName_injective (inputPath : String) : Function.Injective (splitName inputPath) := by
  intro _ _ same
  rw [splitName_eq, splitName_eq] at same
  have suffixes := (String.append_right_inj _).mp same
  exact Str.zeroPadded_injective
    ((String.append_right_inj _).mp ((String.append_left_inj _).mp suffixes))

lemma resolve_scratch (work : String) {name : String} (isName : IsName name) :
    resolve (join work name) = resolve work ++ [name] := by
  rw [resolve_join (isPlain_of_isName isName), Str.split_eq_singleton isName.2.2.2]

lemma mergedNames (work : String) : OutputNames work (join work "_merge_out") mergedName where
  plain := fun idx => isPlain_of_isName (isName_mergedName idx)
  injective := mergedName_injective
  outside := by
    intro idx
    by_contra inside
    obtain ⟨_, _, equal⟩ := below_iff.mp (Bool.not_eq_false _ ▸ inside)
    rw [resolve_scratch work (isName_mergedName idx), resolve_scratch work (by decide)] at equal
    simpa using congrArg List.length equal

variable {inputPath : String}

/-- The place of a split output is in the directory of its input. -/
lemma below_splitName (plain : IsPlain inputPath) (isName : IsName scratch) (idx : Nat) :
    below (resolve (join work scratch)) (resolve (join work (splitName inputPath idx))) =
      below (resolve (join work scratch)) (resolve (join work inputPath)) := by
  have splitPlain := isPlain_append plain (splitSuffix_length idx) (slash_not_mem_splitSuffix idx)
  rw [splitName_eq, resolve_join splitPlain, resolve_join plain, resolve_scratch work isName]
  obtain ⟨_, name, rfl, closed, free⟩ := exists_dir_name inputPath
  obtain ⟨pieces, splits⟩ := split_dir closed
  have suffixFree : '/' ∉ (name ++ splitSuffix idx).toList := by
    rw [toList_append, mem_append, not_or]
    exact ⟨free, slash_not_mem_splitSuffix idx⟩
  rw [String.append_assoc, splits name free, splits _ suffixFree, Bool.eq_iff_iff,
    below_iff, below_iff]
  cases pieces with
  | nil =>
    constructor <;>
    · rintro ⟨_, _, equal⟩
      simpa using congrArg List.length equal
  | cons _ others => cases others <;> simp

lemma splitNames (seeded : Seeded work working disk) (known : working.lookup inputPath = some path)
    (fresh : FreshOutputs work (join work "_split_out") [inputPath] (splitName inputPath)
      working disk) :
    OutputNames work (join work "_split_out") (splitName inputPath) where
  plain := fun idx => by
    rw [splitName_eq]
    exact isPlain_append (seeded.plain known) (splitSuffix_length idx)
      (slash_not_mem_splitSuffix idx)
  injective := splitName_injective inputPath
  outside := fun idx => by
    rw [below_splitName (seeded.plain known) (by decide), ← seeded.path_eq known]
    exact seeded.outside_scratch fresh known

/-! ## Operations and plans -/

variable {extension : String} {paths : List String}

lemma inPlace_conserves {missing : String}
    (preserves : ∀ {file result}, convert file = .ok result → rows result = rows file)
    (seeded : Seeded work working disk) (fresh : FreshTemporaries extension paths working disk)
    (returns : Returns (service truncated).reliable
      (inPlace working (rewriteEach extension missing (transformFile convert) working paths)) disk
      next after) :
    workRows rows work after = workRows rows work disk ∧ Seeded work next after := by
  obtain ⟨_, _, rewriting, ended⟩ := returns.of_bind
  cases ended.of_pure
  have same : SameRows rows work disk after :=
    rewriteEach_conserves preserves fresh rewriting.of_reliable
  exact ⟨same.rows_eq, seeded.plain, seeded.path_eq, fun known =>
    (same.occupied _).trans (seeded.present known)⟩

lemma FreshTemporaries.filter
    (fresh : FreshTemporaries extension paths working disk) (keep : String → Bool) :
    FreshTemporaries extension (paths.filter keep) working disk :=
  fun rel mem => fresh rel (mem_filter.mp mem).1

omit [DecidableEq Schema] in
lemma RowPreserving.rewritten (preserving : RowPreserving tools rows batchRows)
    {options : WriterOptions} {file result : File}
    (rewrites : rewritten tools options file = .ok result) : rows result = rows file := by
  unfold Repair.rewritten at rewrites
  split at rewrites
  · rename_i parsed
    rw [preserving.write rewrites, preserving.read parsed]
  · cases rewrites

variable {root : String} {op : RepairOperation}

/-- An operation whose generated names are free keeps the rows. -/
lemma applyOperation_conserves (preserving : RowPreserving tools rows batchRows)
    (seeded : Seeded work working disk) (fresh : Fresh work working disk op.action)
    (returns : Returns (service truncated).reliable
      (applyOperation tools op root work working) disk next after) :
    workRows rows work after = workRows rows work disk ∧ Seeded work next after := by
  unfold applyOperation at returns
  cases action : op.action with
  | mergeSmallFiles targetBytes =>
    rw [action] at returns fresh
    unfold mergeSmallFiles at returns
    dsimp only at returns
    split at returns
    · cases returns.of_pure
      exact ⟨rfl, seeded⟩
    · rename_i enough
      have free := fresh (Nat.le_of_not_lt enough)
      have names := mergedNames work
      obtain ⟨_, _, _, _, _, _, replaced⟩ := replaceFiles_replaces preserving
        (mergeTarget work targetBytes) (show '/' ∉ "part".toList by decide) names returns
      exact ⟨replaced.workRows_eq seeded names free, replaced.seeds seeded names free⟩
  | splitLargeFile targetBytes inputPath =>
    rw [action] at returns fresh
    obtain ⟨known, free⟩ := fresh
    obtain ⟨_, known⟩ := isSome_iff_exists.mp known
    have names := splitNames seeded known free
    have source : [(working.lookup inputPath).getD (join root inputPath)] =
        presentPaths working [inputPath] := by
      simp [presentPaths, known]
    unfold splitLargeFile splitParquetFile at returns
    dsimp only at returns
    rw [source] at returns
    obtain ⟨_, _, _, _, _, _, replaced⟩ := replaceFiles_replaces preserving
      (splitTarget work targetBytes) (show '/' ∉ "split".toList by decide) names returns
    exact ⟨replaced.workRows_eq seeded names free, replaced.seeds seeded names free⟩
  | resizeRowGroups | recompress | rebuildStatistics =>
    rw [action] at returns fresh
    exact inPlace_conserves preserving.rewritten seeded (FreshTemporaries.filter fresh _) returns
  | castColumn | alignSchema =>
    rw [action] at returns fresh
    exact inPlace_conserves preserving.cast seeded fresh returns
  | renameColumn =>
    rw [action] at returns fresh
    exact inPlace_conserves preserving.rename seeded fresh returns
  | repartition =>
    rw [action] at returns
    cases returns.of_throw

/-- Every operation of the run that is executed finds its generated names free. -/
def FreshRun (tools : Toolkit File Schema Batch) (truncated : File) (executor : RepairExecutor)
    (root work : String) : List RepairOperation → Working → Disk File → Prop
  | [], _, _ => True
  | op :: rest, working, disk =>
    (runs executor op = true → Fresh work working disk op.action) ∧
      ∀ next after, Returns (service truncated).reliable
        (runOperation tools executor root work op working) disk next after →
        FreshRun tools truncated executor root work rest next after

variable {executor : RepairExecutor}

lemma runOperation_conserves (preserving : RowPreserving tools rows batchRows)
    (seeded : Seeded work working disk)
    (fresh : runs executor op = true → Fresh work working disk op.action)
    (returns : Returns (service truncated).reliable
      (runOperation tools executor root work op working) disk next after) :
    workRows rows work after = workRows rows work disk ∧ Seeded work next after := by
  unfold runOperation at returns
  split at returns
  · rename_i executed
    exact applyOperation_conserves preserving seeded (fresh executed) returns
  · cases returns.of_pure
    exact ⟨rfl, seeded⟩

lemma runSorted_conserves (preserving : RowPreserving tools rows batchRows)
    {context : OperationAuditContext}
    {ops : List RepairOperation} {outcome final : RepairOperationOutcome}
    (seeded : Seeded work working disk)
    (fresh : FreshRun tools truncated executor root work ops working disk)
    (returns : Returns (service truncated).reliable
      (runSorted tools executor context root work ops working outcome) disk (next, final) after) :
    workRows rows work after = workRows rows work disk := by
  induction ops generalizing working outcome disk with
  | nil =>
    obtain ⟨_, rfl⟩ := returns_pure.mp returns
    rfl
  | cons _ _ ih =>
    obtain ⟨middle, mid, first, later⟩ := returns.of_bind
    obtain ⟨same, stillSeeded⟩ := runOperation_conserves preserving seeded fresh.1 first
    exact (ih stillSeeded (fresh.2 middle mid first) later).trans same

/-- A run of a plan in which every executed operation finds its generated names free
keeps the rows of the working directory. -/
theorem row_conservation (preserving : RowPreserving tools rows batchRows)
    (executor : RepairExecutor) (plan : RepairPlan) (context : OperationAuditContext)
    (root : String) {sorted : List RepairOperation} {outcome : RepairOperationOutcome}
    (seeded : Seeded work working disk) (sorts : sortByDependencies plan.operations = .ok sorted)
    (fresh : FreshRun tools truncated executor root work sorted working disk)
    (returns : Fallible.Returns (service truncated).reliable
      (runRepairOperations tools executor plan root work working context) disk (next, outcome)
      after) :
    workRows rows work after = workRows rows work disk := by
  obtain ⟨_, _, ordering, running⟩ := returns.of_bind
  obtain ⟨ordered, rfl⟩ := value_of_returns_liftResult ordering.of_reliable
  rw [sorts] at ordered
  cases ordered
  exact runSorted_conserves preserving seeded fresh running

end

/-! ## Runs on small directories -/

namespace Reference

/-- Files that are lists of rows. -/
def listTools : Toolkit (List Nat) Unit Nat := .ofRows id id

def listRows (file : List Nat) : Multiset Nat := file

lemma listRows_eq_sum (rows : List Nat) :
    listRows rows = (rows.map fun row => ({row} : Multiset Nat)).sum := by
  induction rows with
  | nil => rfl
  | cons _ _ ih =>
    rw [map_cons, sum_cons, ← ih]
    rfl

lemma listTools_preserving : RowPreserving listTools listRows fun row => {row} where
  read := by
    rintro file _ batches ⟨⟩
    exact listRows_eq_sum file
  write := by
    rintro _ _ batches file ⟨⟩
    exact listRows_eq_sum batches
  cast := by
    rintro _ _ _ _ ⟨⟩
    rfl
  rename := by
    rintro _ _ _ _ ⟨⟩
    rfl

/-- A working directory `/w` with the given files. -/
def workDisk (entries : List (String × List Nat)) : Disk (List Nat) where
  files := (entries.map fun entry =>
    (⟨["/", "w", entry.1], entry.2⟩ : Sigma fun _ : List String => List Nat)).toAList
  dirs := [["/", "w"]]

/-- Working set of these files. -/
def workingOf (entries : List (String × List Nat)) : Working :=
  (entries.map fun entry =>
    (⟨entry.1, join "/w" entry.1⟩ : Sigma fun _ : String => String)).toAList

variable {entries : List (String × List Nat)}

lemma lookup_workingOf {rel path : String} (known : (workingOf entries).lookup rel = some path) :
    path = join "/w" rel ∧ ∃ entry ∈ entries, entry.1 = rel := by
  have found : path ∈ dlookup rel (entries.map fun entry =>
      (⟨entry.1, join "/w" entry.1⟩ : Sigma fun _ : String => String)) := by
    rw [← dlookup_dedupKeys]
    exact known
  obtain ⟨entry, listed, equal⟩ := mem_map.mp (of_mem_dlookup found)
  cases equal
  exact ⟨rfl, entry, listed, rfl⟩

lemma lookup_workDisk {place : List String} :
    ((workDisk entries).files.lookup place).isSome = true ↔
      ∃ entry ∈ entries, place = ["/", "w", entry.1] := by
  change ((dlookup place (dedupKeys _)).isSome = true) ↔ _
  rw [dlookup_dedupKeys, dlookup_isSome]
  simp [List.keys, eq_comm]

lemma seeded_workDisk (names : ∀ entry ∈ entries, IsName entry.1) :
    Seeded "/w" (workingOf entries) (workDisk entries) where
  plain := fun known => by
    obtain ⟨_, entry, listed, rfl⟩ := lookup_workingOf known
    exact isPlain_of_isName (names entry listed)
  path_eq := fun known => (lookup_workingOf known).1
  present := fun known => by
    obtain ⟨rfl, entry, listed, rfl⟩ := lookup_workingOf known
    rw [Disk.fileAt, lookup_workDisk, resolve_scratch "/w" (names entry listed)]
    have root : resolve "/w" = ["/", "w"] := by decide
    exact ⟨entry, listed, by rw [root]; rfl⟩

/-- A plan with one safe operation. -/
def onePlan (action : RepairAction) : RepairPlan where
  schemaVersion := PLAN_SCHEMA_VERSION
  planId := "p"
  datasetRoot := "/d"
  datasetFingerprint := ⟨1, "/d", [], "x"⟩
  policyFingerprint := "f"
  repairPolicy := .standard
  operations := [⟨"op", .safe, action, []⟩]

def nobody : RepairExecutor := ⟨⟨[]⟩, true⟩

def noContext : OperationAuditContext := ⟨"p", "x", "f", "0"⟩

/-- The temporary file of the rewrite of `a` is another file of the dataset. -/
def clashing : List (String × List Nat) := [("a", [1]), ("a.parqonaut-tmp.parquet", [2])]

lemma clashing_run : ∃ result after, Returns (service ([] : List Nat)).reliable
      (runRepairOperations listTools nobody (onePlan (.recompress "zstd" ["a"])) "/d" "/w"
        (workingOf clashing) noContext) (workDisk clashing) result after ∧
    decide (workRows listRows "/w" after ≠ workRows listRows "/w" (workDisk clashing)) = true :=
  exists_returns_of_eval (by decide +kernel)

theorem rewrite_loses_rows : RowPreserving listTools listRows (fun row => {row}) ∧
      Seeded "/w" (workingOf clashing) (workDisk clashing) ∧
      ∃ result after, Fallible.Returns (service ([] : List Nat)).reliable
          (runRepairOperations listTools nobody (onePlan (.recompress "zstd" ["a"])) "/d" "/w"
            (workingOf clashing) noContext) (workDisk clashing) result after ∧
        workRows listRows "/w" after ≠ workRows listRows "/w" (workDisk clashing) := by
  refine ⟨listTools_preserving, seeded_workDisk (by decide), ?_⟩
  obtain ⟨result, after, returns, differs⟩ := clashing_run
  exact ⟨result, after, returns, of_decide_eq_true differs⟩

/-- Two files that a plan merges. -/
def mergeable : List (String × List Nat) := [("a", [1]), ("b", [2, 3])]

lemma fresh_mergeable : Fresh "/w" (workingOf mergeable) (workDisk mergeable)
    (.mergeSmallFiles 8 ["a", "b"]) := by
  intro _
  have free : ∀ place, place ≠ ["/", "w", "a"] → place ≠ ["/", "w", "b"] →
      (workDisk mergeable).files.lookup place = none := by
    intro place notA notB
    by_contra occupied
    rw [← ne_eq, ne_none_iff_isSome, lookup_workDisk] at occupied
    simp [mergeable, notA, notB] at occupied
  refine ⟨by decide +kernel, fun place inside => ?_, fun idx => .inl ?_⟩
  · apply free
    all_goals
      rintro rfl
      revert inside
      decide +kernel
  · have place : resolve (join "/w" (mergedName idx)) = ["/", "w", mergedName idx] := by
      rw [resolve_scratch "/w" (isName_mergedName idx)]
      rfl
    have long : 1 < (mergedName idx).toList.length := by
      simp [mergedName]
    rw [Disk.fileAt, place]
    apply free
    all_goals
      intro equal
      have name : (mergedName idx).toList.length = 1 := by
        simp only [cons.injEq, true_and, and_true] at equal
        rw [equal]
        rfl
      omega

lemma mergeable_run : ∃ result after, Returns (service ([] : List Nat)).reliable
      (runRepairOperations listTools nobody (onePlan (.mergeSmallFiles 8 ["a", "b"])) "/d" "/w"
        (workingOf mergeable) noContext) (workDisk mergeable) result after ∧
    decide (result.2.executed = ["op"]) = true :=
  exists_returns_of_eval (by decide +kernel)

theorem row_conservation_mergeable : ∃ result after,
    Fallible.Returns (service ([] : List Nat)).reliable
      (runRepairOperations listTools nobody (onePlan (.mergeSmallFiles 8 ["a", "b"])) "/d" "/w"
        (workingOf mergeable) noContext) (workDisk mergeable) result after ∧
    workRows listRows "/w" after = workRows listRows "/w" (workDisk mergeable) := by
  obtain ⟨result, after, returns, _⟩ := mergeable_run
  have sorts : sortByDependencies (onePlan (.mergeSmallFiles 8 ["a", "b"])).operations =
      .ok [⟨"op", .safe, .mergeSmallFiles 8 ["a", "b"], []⟩] := by decide +kernel
  have fresh : FreshRun listTools [] nobody "/d" "/w"
      [⟨"op", .safe, .mergeSmallFiles 8 ["a", "b"], []⟩] (workingOf mergeable)
      (workDisk mergeable) := ⟨fun _ => fresh_mergeable, fun _ _ _ => trivial⟩
  exact ⟨result, after, returns, row_conservation listTools_preserving nobody
    (onePlan (.mergeSmallFiles 8 ["a", "b"])) noContext "/d" (seeded_workDisk (by decide)) sorts
    fresh returns⟩

end Reference

end Parqonaut.Repair
