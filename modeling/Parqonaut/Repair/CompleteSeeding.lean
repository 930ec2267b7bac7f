import Parqonaut.Repair.RetryableRepair

/-!
# Completeness of seeding

The scan stops at a fixed number of files, so a repair keeps all parquet files of a tree exactly if
they come first in the walk.
-/

namespace Parqonaut.Repair

open Effects Rust Schema Fallible List AList Path Disk

variable {File Schema Batch : Type}

/-- Part of an execution that fills the working directory. -/
def seedStaged (plan : RepairPlan) (output : String) (scan : ScanReport) (executionId : String) :
    LocalM File Working := do
  fsCall (.createDirAll (workOf output executionId))
  seedWorkDir plan.datasetRoot (workOf output executionId) scan

/-- A parquet file below the root whose footer can be read. -/
structure ReadableParquet (tools : Toolkit File Schema Batch) (disk : Disk File)
    (root rel : String) (contents : File) : Prop where
  plain : IsPlain rel
  there : disk.fileAt (join root rel) = some contents
  format : classifyFormatFromPath (join root rel) = .parquet
  readable : ∃ inspection, tools.inspect contents = .ok inspection

/-- The names below the root are those of a file system. -/
def ProperNames (disk : Disk File) (root : String) : Prop :=
  ∀ file ∈ treeFiles disk root, IsPlain file.1

/-- No file is in the staging directory of the execution, whose id is new. -/
def UnusedStaging (disk : Disk File) (output executionId : String) : Prop :=
  ∀ place, below (resolve (stagingOf output executionId)) place = true →
    disk.files.lookup place = none

/-! ## Seeding -/

section

variable {truncated : File} {root work : String} {assets : List AssetRecord}
  {working next : Working} {start disk after : Disk File}

lemma createParent_files {path : String}
    (returns : Returns (service truncated) (createParent path) disk () after) :
    after.files = disk.files := by
  unfold createParent at returns
  split at returns
  · exact (after_createDirAll (serve_of_returns_fsCall returns)).1
  · rw [(returns_pure.mp returns).2]

/-- A name of the working set stands for a parquet file of the scan. -/
lemma seedAssets_entries
    (returns : Returns (service truncated) (seedAssets root work assets working)
      disk next after) (rel : String) :
    ((∃ asset ∈ assets, asset.format = .parquet ∧ relativize root asset.path = rel) →
        next.lookup rel = some (join work rel)) ∧
      ((∀ asset ∈ assets, asset.format = .parquet → relativize root asset.path ≠ rel) →
        next.lookup rel = working.lookup rel) := by
  induction assets generalizing working disk with
  | nil =>
    cases returns.of_pure
    exact ⟨by simp, fun _ => rfl⟩
  | cons asset rest ih =>
    unfold seedAssets at returns
    split at returns
    · rename_i skipped
      obtain ⟨named, others⟩ := ih returns
      refine ⟨?_, fun absent => others fun other listed =>
        absent other (mem_cons_of_mem _ listed)⟩
      rintro ⟨found, listed, format, equal⟩
      rcases mem_cons.mp listed with rfl | later
      · exact absurd format skipped
      · exact named ⟨found, later, format, equal⟩
    · rename_i format
      obtain ⟨_, _, _, copying⟩ := returns.of_bind
      obtain ⟨_, _, _, later⟩ := copying.of_bind
      obtain ⟨named, others⟩ := ih later
      by_cases again : ∃ other ∈ rest, other.format = .parquet ∧ relativize root other.path = rel
      · refine ⟨fun _ => named again, fun absent => ?_⟩
        obtain ⟨other, listed, parquet, equal⟩ := again
        exact absurd equal (absent other (mem_cons_of_mem _ listed) parquet)
      · have kept := others fun other listed parquet equal =>
          again ⟨other, listed, parquet, equal⟩
        refine ⟨?_, fun absent => ?_⟩
        · rintro ⟨found, listed, parquet, equal⟩
          rcases mem_cons.mp listed with rfl | later
          · rw [kept, equal, lookup_insert]
          · exact absurd ⟨found, later, parquet, equal⟩ again
        · rw [kept, lookup_insert_ne fun same =>
            absent asset mem_cons_self (not_not.mp format) same.symm]

/-- The working directory holds copies of files below the root, and nothing else has changed. -/
structure Copying (start : Disk File) (root work : String) (working : Working)
    (disk : Disk File) : Prop where
  outside : ∀ place, below (resolve work) place = false →
    disk.files.lookup place = start.files.lookup place
  copied : ∀ rel path, working.lookup rel = some path → IsPlain rel ∧
    path = join work rel ∧ disk.fileAt path = start.fileAt (join root rel)

lemma below_join {rel : String} (plain : IsPlain rel) :
    below (resolve work) (resolve (join work rel)) = true := by
  rw [resolve_join plain, below_iff]
  cases pieces : Str.split rel '/' with
  | nil => simp [Str.split] at pieces
  | cons first rest => exact ⟨first, rest, rfl⟩

lemma seedAssets_copies (sources : ∀ asset ∈ assets, asset.format = .parquet → ∃ rel, IsPlain rel ∧
      asset.path = join root rel ∧
      below (resolve work) (resolve asset.path) = false)
    (copying : Copying start root work working disk)
    (returns : Returns (service truncated) (seedAssets root work assets working)
      disk next after) : Copying start root work next after := by
  induction assets generalizing working disk with
  | nil =>
    cases returns.of_pure
    exact copying
  | cons asset _ ih =>
    have later_sources := fun other listed => sources other (mem_cons_of_mem _ listed)
    unfold seedAssets at returns
    split at returns
    · exact ih later_sources copying returns
    · rename_i format
      obtain ⟨rel, plain, path, apart⟩ := sources asset mem_cons_self (not_not.mp format)
      obtain ⟨_, _, making, writing⟩ := returns.of_bind
      obtain ⟨_, copied, copies, later⟩ := writing.of_bind
      have sameFiles := createParent_files making
      have name : relativize root asset.path = rel := by rw [path, relativize_join plain]
      rw [name] at copies later
      have inside : below (resolve work) (resolve (join work rel)) = true :=
        below_join plain
      have differ : resolve asset.path ≠ resolve (join work rel) := by
        intro same
        rw [same, inside] at apart
        cases apart
      obtain ⟨_, found, rfl⟩ :=
        after_copy (serve_of_returns_fsCall copies) differ
      refine ih later_sources ⟨fun place outside => ?_, fun other otherPath known => ?_⟩ later
      · rw [lookup_insert_ne, sameFiles, copying.outside place outside]
        rintro rfl
        rw [inside] at outside
        cases outside
      · by_cases here : other = rel
        · subst here
          rw [lookup_insert] at known
          cases known
          refine ⟨plain, rfl, ?_⟩
          rw [fileAt, lookup_insert, ← path, ← found, fileAt, sameFiles]
          exact (copying.outside _ apart).symm ▸ rfl
        · rw [lookup_insert_ne here] at known
          obtain ⟨otherPlain, rfl, same⟩ := copying.copied other otherPath known
          refine ⟨otherPlain, rfl, ?_⟩
          rw [fileAt, lookup_insert_ne fun equal =>
            here (resolve_join_inj otherPlain plain equal), sameFiles]
          exact same

end

/-! ## Executions -/

section

variable {tools : Toolkit File Schema Batch} {truncated : File} {disk after : Disk File}
  {root output executionId : String} {plan : RepairPlan} {scan : ScanReport}

lemma checkExecution_returns
    (returns : Returns (service truncated) (checkExecution tools plan output scan)
      disk () after) : after = disk := by
  obtain ⟨_, _, version, checking⟩ := returns.of_bind
  obtain ⟨_, rfl⟩ := value_of_returns_liftResult version
  obtain ⟨_, _, asked, rest⟩ := checking.of_bind
  obtain ⟨_, rfl⟩ := Prod.mk.inj (serve_of_returns_fsCall asked)
  split at rest
  · cases rest.of_throw
  · split at rest
    · cases rest.of_throw
    · obtain ⟨_, _, computed, verifying⟩ := rest.of_bind
      obtain ⟨_, _, listed, ended⟩ := computed.of_bind
      obtain ⟨_, rfl⟩ := fromScanReport_eq listed
      obtain ⟨_, rfl⟩ := returns_pure.mp ended
      exact (value_of_returns_liftResult verifying).2

/-- Every execution seeds its working directory. -/
lemma exists_seeded [DecidableEq Schema] {encode : ExecutionManifest → File}
    {executor : RepairExecutor} {report : ExecutionReport}
    (returns : Returns (service truncated)
      (execute tools encode executor plan output scan executionId) disk report after) :
    ∃ working seeded, Returns (service truncated)
      (seedStaged plan output scan executionId) disk working seeded := by
  obtain ⟨_, _, recording, _⟩ := returns.of_bind
  rw [executeRecorded_eq] at recording
  obtain ⟨_, _, checked, repairing⟩ := recording.of_bind
  obtain rfl := checkExecution_returns checked
  obtain ⟨_, _, repaired, _⟩ := repairing.of_bind
  obtain ⟨_, _, making, seeding⟩ := repaired.of_bind
  obtain ⟨working, seeded, seeds, _⟩ := seeding.of_bind
  exact ⟨working, seeded, .bind making seeds⟩

/-- Every readable parquet file below the root is seeded, with its contents when the staging
directory is new. -/
def SeedsAll (tools : Toolkit File Schema Batch) (truncated : File) (disk : Disk File)
    (root output executionId : String) (plan : RepairPlan) (scan : ScanReport) : Prop :=
  ∀ working seeded, Returns (service truncated)
      (seedStaged plan output scan executionId) disk working seeded →
    ∀ rel contents, ReadableParquet tools disk root rel contents →
      working.lookup rel = some (join (workOf output executionId) rel) ∧
        (UnusedStaging disk output executionId →
          seeded.fileAt (join (workOf output executionId) rel) = some contents)

variable {engine : ScanEngine File}

/-- The parquet files of a scan are read from below the root, outside of a new staging
directory. -/
lemma scanned_sources (proper : ProperNames disk root)
    (unused : UnusedStaging disk output executionId) :
    ∀ asset ∈ (engine.run tools.inspect root (treeFiles disk root)).assets,
      asset.format = .parquet → ∃ rel, IsPlain rel ∧ asset.path = join root rel ∧
        below (resolve (workOf output executionId)) (resolve asset.path) =
          false := by
  intro _ listed _
  obtain ⟨file, taken, rfl⟩ := engine.mem_assets_run.mp listed
  have mem := (engine.walk_subperm _).subset (mem_of_mem_take taken)
  refine ⟨file.1, proper file mem, rfl, ?_⟩
  have found : disk.files.lookup (resolve (join root file.1)) = some file.2 :=
    mem_treeFiles_fileAt mem
  by_contra inside
  obtain ⟨name, rest, place⟩ : ∃ name rest, resolve (join root file.1) =
      resolve (workOf output executionId) ++ name :: rest :=
    below_iff.mp (Bool.not_eq_false _ ▸ inside)
  have staged : resolve (workOf output executionId) =
      resolve (stagingOf output executionId) ++ ["work"] := by
    rw [workOf, resolve_join (by decide)]
    rfl
  have empty := unused (resolve (join root file.1)) (below_iff.mpr
    ⟨"work", name :: rest, by rw [place, staged, append_assoc, singleton_append]⟩)
  rw [empty] at found
  cases found

variable [DecidableEq Schema]

/-- A repair keeps all readable parquet files exactly if they are among the first files of the
walk. -/
theorem seeds_all_iff {digests : Digests} {policy : EffectivePolicy}
    {target : Option (List FieldDescriptor)} {encode : ExecutionManifest → File}
    {executor : RepairExecutor} {report : ExecutionReport} {scanned planned : Disk File}
    (proper : ProperNames disk root)
    (scans : Returns (service truncated)
      (scanDirectory (tools.withEngine engine) root) disk scan scanned)
    (plans : Returns (service truncated)
      (generatePlan digests root scan policy (tools.withEngine engine) target) disk plan planned)
    (executes : Returns (service truncated)
      (execute (tools.withEngine engine) encode executor plan output scan executionId) disk report
      after) :
    SeedsAll tools truncated disk root output executionId plan scan ↔
      ∀ rel contents, ReadableParquet tools disk root rel contents →
        (rel, contents) ∈ (engine.walk (treeFiles disk root)).take defaultMaxFiles := by
  obtain ⟨⟨_, _⟩, rfl, rfl⟩ := scanDirectory_engine scans
  obtain ⟨⟨_, -, planned_eq⟩, -⟩ := generatePlan_returns plans
  have datasetRoot : plan.datasetRoot = root := by rw [planned_eq]; rfl
  constructor
  · intro all rel contents parquet
    obtain ⟨working, seeded, seeds⟩ := exists_seeded executes
    obtain ⟨known, -⟩ := all working seeded seeds rel contents parquet
    obtain ⟨_, _, _, seeding⟩ := seeds.of_bind
    rw [datasetRoot] at seeding
    have listed : ∃ asset ∈ (engine.run tools.inspect root (treeFiles scanned root)).assets,
        asset.format = .parquet ∧ relativize root asset.path = rel := by
      by_contra absent
      push Not at absent
      rw [(seedAssets_entries seeding rel).2 absent] at known
      cases known
    obtain ⟨_, mem, _, equal⟩ := listed
    obtain ⟨file, taken, rfl⟩ := engine.mem_assets_run.mp mem
    have inTree := (engine.walk_subperm _).subset (mem_of_mem_take taken)
    have same : file.1 = rel := (relativize_join (proper file inTree)).symm.trans equal
    have found := mem_treeFiles_fileAt inTree
    rw [same, parquet.there] at found
    cases found
    rw [← same]
    exact taken
  · intro early _ _ seeds rel contents parquet
    obtain ⟨_, made, making, seeding⟩ := seeds.of_bind
    obtain ⟨sameFiles, -⟩ := after_createDirAll (serve_of_returns_fsCall making)
    rw [datasetRoot] at seeding
    have format : (engine.resolved root (rel, contents)).record.format = .parquet := by
      rw [engine.resolved_format, parquet.format]
    have known := (seedAssets_entries seeding rel).1 ⟨_,
      engine.mem_assets_run.mpr ⟨_, early rel contents parquet, rfl⟩, format,
      relativize_join parquet.plain⟩
    refine ⟨known, fun unused => ?_⟩
    have begun : Copying scanned root (workOf output executionId) ∅ made :=
      ⟨fun place _ => by rw [sameFiles], fun rel path absent => by cases absent⟩
    obtain ⟨-, -, copied⟩ :=
      (seedAssets_copies (scanned_sources proper unused) begun seeding).copied rel _ known
    rw [copied, parquet.there]

end

/-! ## Scans without parquet files -/

section

variable {tools : Toolkit File Schema Batch} {root work : String} {scan : ScanReport}

def emptyInventory (root : String) : DatasetInventory := ⟨root, [], 0, []⟩

lemma seedAssets_bare {assets : List AssetRecord} {working : Working}
    (bare : ∀ asset ∈ assets, asset.format ≠ .parquet) :
    (seedAssets root work assets working : LocalM File _) = pure working := by
  induction assets with
  | nil => rfl
  | cons asset _ ih =>
    rw [seedAssets, if_pos (bare asset mem_cons_self)]
    exact ih fun other listed => bare other (mem_cons_of_mem _ listed)

variable (bare : ∀ asset ∈ scan.assets, asset.format ≠ .parquet)

include bare

lemma fromScanReport_bare :
    (fromScanReport tools root scan : LocalM File _) = pure (emptyInventory root) := by
  have none : parquetAssets scan = [] := by
    rw [parquetAssets, filter_eq_nil_iff.mpr]
    · rfl
    · intro asset listed
      simpa using bare asset listed
  rw [fromScanReport, none, inspectAssets, pure_bind]
  rfl

lemma diagnose_bare {policy : RepairPolicy} :
    (diagnose tools root scan policy : LocalM File _) = pure ⟨scan.findings, 0, 0⟩ := by
  rw [diagnose, fromScanReport_bare bare, pure_bind]
  rfl

lemma fingerprint_bare : (computeFingerprintFromScan tools root scan : LocalM File _) =
      pure (computeDatasetFingerprint tools root (emptyInventory root)) := by
  rw [computeFingerprintFromScan, fromScanReport_bare bare, pure_bind]

lemma generatePlan_bare {digests : Digests} {policy : EffectivePolicy}
    {target : Option (List FieldDescriptor)} :
    generatePlan digests root scan policy tools target =
      pure (assemblePlan digests root scan policy (emptyInventory root) scan.findings
        (resolveCanonicalSchema digests.toUppercase policy.schema [] target)
        (computeDatasetFingerprint tools root (emptyInventory root))) := by
  rw [generatePlan, fromScanReport_bare bare, pure_bind, diagnose_bare bare, pure_bind]
  rfl

end

lemma verification_bare {tools : Toolkit File Schema Batch}
    {executor : RepairExecutor} {plan : RepairPlan} {before after : ScanReport}
    {beforeRoot afterRoot : String} (bare : ∀ asset ∈ before.assets, asset.format ≠ .parquet)
    (bareAfter : ∀ asset ∈ after.assets, asset.format ≠ .parquet) :
    ∃ report, (verification tools executor plan before after beforeRoot afterRoot :
      LocalM File _) = pure report := by
  rw [verification]
  split
  · rw [verifyRepair, fromScanReport_bare bare, pure_bind, fromScanReport_bare bareAfter,
      pure_bind, diagnose_bare bare, diagnose_bare bareAfter]
    exact ⟨_, rfl⟩
  · exact ⟨_, rfl⟩

/-! ## A crowded directory -/

namespace Reference

/-- A directory listing that ends with one name. -/
def listedLast (last : String) : ScanEngine (List Nat) where
  walk := fun files => files.filter (fun file => file.1 ≠ last) ++
    files.filter (fun file => !decide (file.1 ≠ last))
  walk_subperm := fun files => (filter_append_perm _ files).subperm
  sizeOf := List.length
  rules := fun _ _ => []

def noteName (idx : Nat) : String := "note-" ++ Str.zeroPadded 6 idx

/-- Notes and one parquet file. -/
def crowdedEntries (count : Nat) : List (Sigma fun _ : List String => List Nat) :=
  ⟨["/", "d", "z.parquet"], [1]⟩ :: (List.range count).map fun idx => ⟨["/", "d", noteName idx], []⟩

lemma noteName_injective : Function.Injective noteName := by
  intro _ _ same
  exact Str.zeroPadded_injective ((String.append_right_inj _).mp same)

lemma noteName_chars {idx : Nat} {c : Char} (mem : c ∈ (noteName idx).toList) :
    c ≠ '.' ∧ c ≠ '/' := by
  rw [noteName, String.toList_append, mem_append] at mem
  rcases mem with fixed | digit
  · have plain : ("note-".toList.all fun d => d ≠ '.' && d ≠ '/') = true := by decide
    simpa using all_eq_true.mp plain c fixed
  · have isDigit := Str.isDigit_of_mem_zeroPadded digit
    constructor <;>
    · rintro rfl
      revert isDigit
      decide

lemma isName_noteName (idx : Nat) : IsName (noteName idx) := by
  apply isName_of_length
  · have five : "note-".toList.length = 5 := by decide
    rw [noteName, String.toList_append, length_append]
    omega
  · exact fun mem => (noteName_chars mem).2 rfl

lemma crowded_nodupKeys (count : Nat) : (crowdedEntries count).NodupKeys := by
  rw [List.NodupKeys, List.keys, crowdedEntries, map_cons, map_map, nodup_cons]
  constructor
  · rw [mem_map]
    rintro ⟨idx, _, same⟩
    have dotted : '.' ∈ (noteName idx).toList := by
      have equal : noteName idx = "z.parquet" := by simpa using same
      rw [equal]
      decide
    exact (noteName_chars dotted).1 rfl
  · refine List.Nodup.map ?_ nodup_range
    intro _ _ same
    exact noteName_injective (by simpa using same)

/-- A directory with more files than a scan lists. -/
def crowded (count : Nat) : Disk (List Nat) where
  files := ⟨crowdedEntries count, crowded_nodupKeys count⟩
  dirs := [["/", "d"]]

variable {count : Nat} {place : List String}

lemma lookup_crowded {file : List Nat} : (crowded count).files.lookup place = some file ↔
      (place = ["/", "d", "z.parquet"] ∧ file = [1]) ∨
        ∃ idx < count, place = ["/", "d", noteName idx] ∧ file = [] := by
  have mem := mem_lookup_iff (s := (crowded count).files) (a := place) (b := file)
  rw [Option.mem_def] at mem
  rw [mem]
  simp [crowded, crowdedEntries, eq_comm]

lemma lookup_crowded_none
    (apart : place.take 2 ≠ ["/", "d"]) : (crowded count).files.lookup place = none := by
  rw [Option.eq_none_iff_forall_ne_some]
  intro _ found
  rcases lookup_crowded.mp found with ⟨rfl, -⟩ | ⟨_, -, rfl, -⟩ <;>
  exact apart rfl

lemma classify_noteName (idx : Nat) :
    classifyFormatFromPath (join "/d" (noteName idx)) = .unknown := by
  have isName := isName_noteName idx
  have last : lastPiece (join "/d" (noteName idx)) = noteName idx := by
    rw [join_eq (isPlain_of_isName isName)]
    exact lastPiece_dir_name (isDirText_joinBase _) isName.2.2.2 isName.1
  have stem : fileStem (noteName idx) = noteName idx := by
    have undotted : (noteName idx).toList.reverse.dropWhile (· != '.') = [] := by
      rw [dropWhile_eq_nil_iff]
      intro c mem
      simpa using (noteName_chars (mem_reverse.mp mem)).1
    rw [fileStem, undotted]
    rfl
  have plain : extension (join "/d" (noteName idx)) = none := by
    rw [extension, last, stem]
    simp
  rw [classifyFormatFromPath, plain]
  rfl

def crowdedTools : Toolkit (List Nat) Unit Nat := listTools.withEngine (listedLast "z.parquet")

section

variable {names : List String}

lemma crowded_names {rel : String}
    (walks : (crowded count).walkFiles "/d" = .ok names) (listed : rel ∈ names) :
    rel = "z.parquet" ∨ ∃ idx < count, rel = noteName idx := by
  obtain ⟨_, occupied, -, name⟩ := mem_walkFiles walks listed
  obtain ⟨_, found⟩ := Option.isSome_iff_exists.mp occupied
  rcases lookup_crowded.mp found with ⟨rfl, -⟩ | ⟨idx, bound, rfl, -⟩
  · exact .inl name
  · refine .inr ⟨idx, bound, name.trans ?_⟩
    simp [show resolve "/d" = ["/", "d"] by decide]

lemma crowded_walks : ∃ names, (crowded count).walkFiles "/d" = .ok names := by
  exact ⟨_, rfl⟩

lemma crowded_note {idx : Nat} (bound : idx < count) :
    (crowded count).fileAt (join "/d" (noteName idx)) = some [] := by
  have isName := isName_noteName idx
  rw [fileAt, resolve_join (isPlain_of_isName isName),
    Str.split_eq_singleton isName.2.2.2, lookup_crowded]
  exact .inr ⟨idx, bound, rfl, rfl⟩

lemma crowded_parquet : (crowded count).fileAt (join "/d" "z.parquet") = some [1] :=
  lookup_crowded.mpr (.inl ⟨by decide, rfl⟩)

/-- The scan lists notes only. -/
lemma crowded_bare : ∀ asset ∈ ((listedLast "z.parquet").run listTools.inspect "/d"
    (treeFiles (crowded defaultMaxFiles) "/d")).assets, asset.format ≠ .parquet := by
  intro _ listed
  obtain ⟨file, taken, rfl⟩ := (listedLast "z.parquet").mem_assets_run.mp listed
  obtain ⟨_, walks⟩ := @crowded_walks defaultMaxFiles
  have notes : (List.range defaultMaxFiles).map (fun idx => (noteName idx, ([] : List Nat))) ⊆
      (treeFiles (crowded defaultMaxFiles) "/d").filter fun file => file.1 ≠ "z.parquet" := by
    intro _ mem
    obtain ⟨idx, bound, rfl⟩ := mem_map.mp mem
    refine mem_filter.mpr ⟨mem_treeFiles walks
      (isPlain_of_isName (isName_noteName idx)) (crowded_note (mem_range.mp bound)), ?_⟩
    rw [decide_eq_true_eq]
    intro same
    have dotted : '.' ∈ (noteName idx).toList := by
      rw [show noteName idx = "z.parquet" from same]
      decide
    exact (noteName_chars dotted).1 rfl
  have distinct : ((List.range defaultMaxFiles).map
      fun idx => (noteName idx, ([] : List Nat))).Nodup := by
    refine List.Nodup.map ?_ nodup_range
    intro _ _ same
    exact noteName_injective (Prod.mk.inj same).1
  have many := (distinct.subperm notes).length_le
  rw [length_map, length_range] at many
  have early : file ∈ (treeFiles (crowded defaultMaxFiles) "/d").filter
      fun file => file.1 ≠ "z.parquet" := by
    have walked : (listedLast "z.parquet").walk (treeFiles (crowded defaultMaxFiles) "/d") =
        (treeFiles (crowded defaultMaxFiles) "/d").filter (fun file => file.1 ≠ "z.parquet") ++
          (treeFiles (crowded defaultMaxFiles) "/d").filter
            (fun file => !decide (file.1 ≠ "z.parquet")) := rfl
    rw [walked, take_append_of_le_length many] at taken
    exact mem_of_mem_take taken
  obtain ⟨mem, other⟩ := mem_filter.mp early
  have named := crowded_names walks (mem_names_of_mem_treeFiles walks mem)
  obtain ⟨_, -, name⟩ := named.resolve_left (of_decide_eq_true other)
  rw [(listedLast "z.parquet").resolved_format, name, classify_noteName]
  decide

variable {disk : Disk (List Nat)}

lemma exists_readFiles {root : String}
    (there : ∀ rel ∈ names, (disk.fileAt (join root rel)).isSome = true) :
    ∃ files, Returns (service []) (readFiles root names) disk files disk := by
  induction names with
  | nil => exact ⟨[], returns_value⟩
  | cons rel _ ih =>
    obtain ⟨_, reads⟩ := ih fun other listed => there other (mem_cons_of_mem _ listed)
    obtain ⟨_, found⟩ := Option.isSome_iff_exists.mp (there rel mem_cons_self)
    exact ⟨_, .bind (returns_fsCall (serve_read_eq_ok.mpr ⟨found, rfl⟩)) (.bind reads returns_value)⟩

lemma crowded_scans : Returns (service []) (scanDirectory crowdedTools "/d")
    (crowded count) ((listedLast "z.parquet").run listTools.inspect "/d"
      (treeFiles (crowded count) "/d")) (crowded count) := by
  obtain ⟨names, walks⟩ := @crowded_walks count
  have there : ∀ rel ∈ names, ((crowded count).fileAt (join "/d" rel)).isSome = true := by
    intro _ listed
    rcases crowded_names walks listed with rfl | ⟨_, bound, rfl⟩
    · rw [crowded_parquet]
      rfl
    · rw [crowded_note bound]
      rfl
  obtain ⟨files, reads⟩ := exists_readFiles there
  have returns : Returns (service []) (scanDirectory crowdedTools "/d")
      (crowded count) ((listedLast "z.parquet").run listTools.inspect "/d" files)
      (crowded count) :=
    .bind (returns_fsCall (Prod.ext walks rfl)) (.bind reads returns_value)
  obtain ⟨-, same, -⟩ := scanDirectory_engine returns
  rwa [same] at returns

/-- Findings that no rule answers. -/
def Quiet (scan : ScanReport) : Prop :=
  ∀ code ∈ scan.findings, code = FORMAT_PARQUET_READ_FAILED ∨ code = TARGET_SCAN_TRUNCATED

def barePlan (scan : ScanReport) : RepairPlan :=
  assemblePlan .constant "/d" scan .standard (emptyInventory "/d") scan.findings
    (resolveCanonicalSchema id EffectivePolicy.standard.schema [] none)
    (computeDatasetFingerprint crowdedTools "/d" (emptyInventory "/d"))

variable {scan : ScanReport}

lemma barePlan_operations (quiet : Quiet scan) : (barePlan scan).operations = [] := by
  have rules : applyRepairRules .constant "/d" (emptyInventory "/d") .standard scan
      scan.findings = [] := by
    have diagnosed : scan.findings.filterMap
        (ruleFor .constant "/d" (emptyInventory "/d") .standard) = [] := by
      rw [filterMap_eq_nil_iff]
      intro code listed
      rcases quiet code listed with rfl | rfl <;> decide
    have tiny : scan.findings.filter (· = METADATA_ROW_GROUP_SUSPICIOUSLY_SMALL) = [] := by
      rw [filter_eq_nil_iff]
      intro code listed
      rcases quiet code listed with rfl | rfl <;> decide
    rw [applyRepairRules, diagnosed, scanOps, tiny]
    rfl
  have others : proposedOperations .constant "/d" scan .standard (emptyInventory "/d")
      scan.findings (resolveCanonicalSchema id EffectivePolicy.standard.schema [] none) = [] := by
    rw [proposedOperations, rules]
    decide
  change planOperations .constant "/d" scan .standard (emptyInventory "/d") scan.findings
    (resolveCanonicalSchema id EffectivePolicy.standard.schema [] none) = []
  rw [planOperations, others]
  rfl

variable {path : String}

lemma serve_createDirAll (free : ∀ part ∈ (resolve path).inits, disk.files.lookup part = none) :
    serve [] (.createDirAll path) disk =
      (.ok (), { disk with dirs := disk.dirs ++ (resolve path).inits }) := by
  rw [serve, createDirAll, if_neg]
  rw [any_eq_true]
  rintro ⟨part, listed, occupied⟩
  rw [free part listed] at occupied
  cases occupied

lemma walkFiles_empty (isDir : disk.isDir (resolve path) = true)
    (empty : ∀ place, below (resolve path) place = true →
      disk.files.lookup place = none) : disk.walkFiles path = .ok [] := by
  have none : disk.files.keys.filter (below (resolve path)) = [] := by
    rw [filter_eq_nil_iff]
    intro place key below
    have occupied := lookup_isSome.mpr (AList.mem_keys.mpr key)
    rw [empty place below] at occupied
    cases occupied
  rw [walkFiles, isDir, none]
  rfl

lemma crowded_checks (bare : ∀ asset ∈ scan.assets, asset.format ≠ .parquet) :
    Returns (service []) (checkExecution crowdedTools (barePlan scan) "/o" scan)
      (crowded count) () (crowded count) := by
  have absent : serve [] (.exists "/o") (crowded count) = (.ok false, crowded count) := by
    have free : (crowded count).fileAt "/o" = none := lookup_crowded_none (by decide)
    change (Except.ok _, _) = _
    rw [free]
    rfl
  refine .bind returns_value (.bind (returns_fsCall absent) ?_)
  have root : (barePlan scan).datasetRoot = "/d" := rfl
  rw [if_neg (by decide), root, if_neg (by decide), fingerprint_bare bare, pure_bind]
  have same : (barePlan scan).datasetFingerprint.verifyAgainst
      (computeDatasetFingerprint crowdedTools "/d" (emptyInventory "/d")) = .ok () :=
    if_neg (not_not.mpr rfl)
  rw [same]
  exact returns_value

/-- Directories after some of them were created. -/
def withDirs (count : Nat) (paths : List String) : Disk (List Nat) where
  files := (crowded count).files
  dirs := ["/", "d"] :: paths.flatMap fun path => (resolve path).inits

/-- Disk when the work directory and the output are open. -/
abbrev bothDirs (count : Nat) : Disk (List Nat) := withDirs count [workOf "/o" "x", "/o"]

lemma isDir_withDirs {paths : List String} :
    (withDirs count paths).isDir place = (withDirs 0 paths).isDir place := rfl

section

variable (bare : ∀ asset ∈ scan.assets, asset.format ≠ .parquet)
include bare

lemma crowded_stages (quiet : Quiet scan) : Returns (service [])
      (repairStaged crowdedTools nobody (barePlan scan) "/o" scan "x") (crowded count)
      ⟨[], [], []⟩ (withDirs count [workOf "/o" "x"]) := by
  have made : serve [] (.createDirAll (workOf "/o" "x")) (crowded count) =
      (.ok (), withDirs count [workOf "/o" "x"]) := by
    rw [serve_createDirAll]
    · simp [withDirs, crowded]
    · intro part _
      apply lookup_crowded_none
      revert part
      decide
  refine .bind (returns_fsCall made) ?_
  rw [seedWorkDir, seedAssets_bare bare, pure_bind]
  have nothing : runRepairOperations crowdedTools nobody (barePlan scan) (barePlan scan).datasetRoot
      (workOf "/o" "x") ∅ (Repair.auditContext (barePlan scan)) = pure (∅, ⟨[], [], []⟩) := by
    rw [runRepairOperations, barePlan_operations quiet]
    rfl
  rw [runOrRetain, nothing]
  exact returns_value

lemma crowded_records : ∃ recorded after, Returns (service [])
      (recordOutput crowdedTools (fun _ => []) nobody (barePlan scan) "/o" scan "x"
        ⟨stagingOf "/o" "x", ⟨[], [], []⟩, ⟨[], []⟩⟩)
      (bothDirs count) recorded after := by
  have none : ∀ asset ∈ (⟨[], []⟩ : ScanReport).assets, asset.format ≠ .parquet :=
    fun _ listed => by cases listed
  obtain ⟨verified, verifies⟩ : ∃ verified, verification crowdedTools nobody (barePlan scan) scan
      ⟨[], []⟩ (barePlan scan).datasetRoot "/o" = (pure verified : LocalM (List Nat) _) :=
    verification_bare bare none
  obtain ⟨written, writes⟩ : ∃ written, (bothDirs count).put
      (join "/o" EXECUTION_MANIFEST_FILE) [] = (.ok (), written) := by
    have place : (bothDirs 0).isDir
        (resolve (join "/o" EXECUTION_MANIFEST_FILE)) = false := by decide
    have above : (bothDirs 0).isDir
        (resolve (join "/o" EXECUTION_MANIFEST_FILE)).dropLast = true := by
      decide
    rw [put, isDir_withDirs, place, isDir_withDirs, above]
    exact ⟨_, rfl⟩
  rw [recordOutput]
  rw [verifies, pure_bind, fingerprint_bare none, pure_bind]
  exact ⟨_, _, .bind (returns_fsCall writes) (.bind
    (returns_request_bind.mpr ⟨_, _, .inl rfl, returns_value⟩) returns_value)⟩

lemma crowded_fills : ∃ recorded after, Returns (service [])
      (fillOutput crowdedTools (fun _ => []) nobody (barePlan scan) "/o" scan "x" ⟨[], [], []⟩)
      (bothDirs count) recorded after := by
  have walksWork : (bothDirs count).walkFiles (workOf "/o" "x") = .ok [] := by
    have isDir : (bothDirs 0).isDir (resolve (workOf "/o" "x")) = true := by decide
    refine walkFiles_empty isDir fun place below => lookup_crowded_none ?_
    obtain ⟨_, _, rfl⟩ := below_iff.mp below
    simp [show resolve (workOf "/o" "x") = ["/", ".parqonaut-staging-x", "work"] by decide]
  have walksOutput : (bothDirs count).walkFiles "/o" = .ok [] := by
    have isDir : (bothDirs 0).isDir (resolve "/o") = true := by decide
    refine walkFiles_empty isDir fun place below => lookup_crowded_none ?_
    obtain ⟨_, _, rfl⟩ := below_iff.mp below
    simp [show resolve "/o" = ["/", "o"] by decide]
  have scansOutput : Returns (service []) (scanDirectory crowdedTools "/o")
      (bothDirs count) ⟨[], []⟩ (bothDirs count) := by
    refine .bind (returns_fsCall (Prod.ext walksOutput rfl)) (.bind returns_value ?_)
    have empty : crowdedTools.scan "/o" [] = .ok ⟨[], []⟩ := by decide
    rw [empty]
    exact returns_value
  obtain ⟨recorded, after, records⟩ := @crowded_records count scan bare
  have copied : Returns (service []) (copyWorkToOutput (workOf "/o" "x") "/o")
      (bothDirs count) () (bothDirs count) :=
    .bind (returns_fsCall (Prod.ext walksWork rfl)) returns_value
  exact ⟨recorded, after, .bind copied (.bind scansOutput records)⟩

lemma crowded_executes (quiet : Quiet scan) : ∃ report after, Returns (service [])
      (execute crowdedTools (fun _ => []) nobody (barePlan scan) "/o" scan "x") (crowded count)
      report after := by
  have opened : serve [] (.createDirAll "/o") (withDirs count [workOf "/o" "x"]) =
      (.ok (), bothDirs count) := by
    rw [serve_createDirAll]
    · simp [withDirs]
    · intro part _
      refine lookup_crowded_none ?_
      revert part
      decide
  obtain ⟨recorded, after, fills⟩ := @crowded_fills count scan bare
  have records : Returns (service [])
      (executeRecorded crowdedTools (fun _ => []) nobody (barePlan scan) "/o" scan "x")
      (crowded count) recorded after := by
    rw [executeRecorded_eq]
    exact .bind (crowded_checks bare) (.bind (crowded_stages bare quiet)
      (.bind (returns_fsCall opened) fills))
  exact ⟨recorded.1, after, .bind records returns_value⟩

end

lemma crowded_quiet {files : List (String × List Nat)} : Quiet
    ((listedLast "z.parquet").run listTools.inspect "/d" files) := by
  intro _ listed
  rw [ScanEngine.run, (perm_insertionSort _ _).mem_iff, mem_append, mem_append, mem_map] at listed
  rcases listed with (none | ⟨_, _, failed⟩) | full
  · cases none
  · exact .inl failed.symm
  · split at full
    · exact .inr (mem_singleton.mp full)
    · cases full

/-- A hundred thousand notes hide a parquet file. -/
theorem crowded_parquet_dropped : ∃ scan plan report scanned planned after,
    ProperNames (crowded defaultMaxFiles) "/d" ∧
    Returns (service []) (scanDirectory (listTools.withEngine (listedLast "z.parquet")) "/d")
      (crowded defaultMaxFiles) scan scanned ∧
    Returns (service []) (generatePlan .constant "/d" scan .standard
      (listTools.withEngine (listedLast "z.parquet")) none) (crowded defaultMaxFiles) plan planned ∧
    Returns (service [])
      (execute (listTools.withEngine (listedLast "z.parquet")) (fun _ => []) nobody plan "/o" scan
        "x") (crowded defaultMaxFiles) report after ∧
    ¬ SeedsAll listTools [] (crowded defaultMaxFiles) "/d" "/o" "x" plan scan := by
  have bare := crowded_bare
  obtain ⟨report, after, executes⟩ := crowded_executes bare crowded_quiet
  refine ⟨_, _, report, _, crowded defaultMaxFiles, after, ?_, crowded_scans, ?_, executes,
    fun all => ?_⟩
  · intro _ mem
    obtain ⟨_, walks⟩ := @crowded_walks defaultMaxFiles
    rcases crowded_names walks (mem_names_of_mem_treeFiles walks mem) with name | ⟨idx, -, name⟩
    · rw [name]
      decide
    · rw [name]
      exact isPlain_of_isName (isName_noteName idx)
  · rw [generatePlan_bare bare]
    exact returns_value
  · obtain ⟨working, seeded, seeds⟩ := exists_seeded executes
    have parquet : ReadableParquet listTools (crowded defaultMaxFiles) "/d" "z.parquet" [1] :=
      ⟨by decide, crowded_parquet, by decide, _, rfl⟩
    obtain ⟨known, -⟩ := all working seeded seeds "z.parquet" [1] parquet
    obtain ⟨_, _, _, seeding⟩ := seeds.of_bind
    rw [seedWorkDir, seedAssets_bare bare] at seeding
    obtain ⟨rfl, -⟩ := returns_pure.mp seeding
    cases known

end

/-- A directory with a parquet file and a note. -/
def smallTree : Disk (List Nat) where
  files := [⟨["/", "d", "a.parquet"], [1, 2]⟩, ⟨["/", "d", "note"], []⟩].toAList
  dirs := [["/", "d"]]

/-- A scan, a plan and its execution. -/
def repairTree : LocalM (List Nat) (ScanReport × RepairPlan × ExecutionReport) := do
  let scan ← scanDirectory crowdedTools "/d"
  let plan ← generatePlan .constant "/d" scan .standard crowdedTools none
  let report ← execute crowdedTools (fun _ => []) nobody plan "/o" scan "x"
  return (scan, plan, report)

lemma smallTree_run : ∃ result after, Returns (service [])
    repairTree smallTree result after ∧ decide (result.2.2.success = true) = true :=
  exists_returns_of_eval (by decide +kernel)

theorem smallTree_seeded : ∃ scan plan report after,
    Returns (service []) (scanDirectory crowdedTools "/d") smallTree scan smallTree ∧
    Returns (service []) (execute crowdedTools (fun _ => []) nobody plan "/o" scan
      "x") smallTree report after ∧
    SeedsAll listTools [] smallTree "/d" "/o" "x" plan scan := by
  obtain ⟨_, _, returns, -⟩ := smallTree_run
  obtain ⟨scan, _, scans, planning⟩ := returns.of_bind
  obtain ⟨walks, -, rfl⟩ := scanDirectory_engine scans
  obtain ⟨plan, _, plans, executing⟩ := planning.of_bind
  obtain ⟨-, rfl⟩ := generatePlan_returns plans
  obtain ⟨report, _, executes, -⟩ := executing.of_bind
  have proper : ∀ file ∈ treeFiles smallTree "/d", IsPlain file.1 := by decide
  refine ⟨scan, plan, report, _, scans, executes,
    (seeds_all_iff proper scans plans executes).mpr fun rel contents parquet => ?_⟩
  obtain ⟨_, walks⟩ := walks
  have few : ((listedLast "z.parquet").walk (treeFiles smallTree "/d")).length ≤
      defaultMaxFiles := by decide +kernel
  have all : (listedLast "z.parquet").walk (treeFiles smallTree "/d") =
      treeFiles smallTree "/d" := by decide
  rw [take_of_length_le few, all]
  exact mem_treeFiles walks parquet.plain parquet.there

end Reference

end Parqonaut.Repair
