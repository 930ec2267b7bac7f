import Parqonaut.Repair.RowConservation
import Parqonaut.Repair.VerifiedPublication
import Parqonaut.Rust.Containment

/-!
# What a repair writes

Seeding and applying operations build their destinations from texts of the plan, the scan and the
remote keys. Here is the exact condition on these texts under which everything stays below the
working directory and no two sources share a destination, whatever the calls answer.
-/

namespace Parqonaut.Repair

open Effects Rust Storage Fallible List Path FsRequest
open Program.Asks (of_mayAsk)

variable {File Schema Batch : Type}

/-- The files of the working set lie below the working directory. -/
def WorkingBelow (work : String) (working : Working) : Prop :=
  ∀ rel path, working.lookup rel = some path → Beneath (resolve work) (resolve path)

lemma WorkingBelow.empty (work : String) : WorkingBelow work ∅ := by
  intro _ _ found
  rw [AList.lookup_empty] at found
  cases found

variable {work rel : String} {working : Working}

lemma WorkingBelow.insert {path : String} (below : WorkingBelow work working)
    (beneath : Beneath (resolve work) (resolve path)) :
    WorkingBelow work (working.insert rel path) :=
  forall_lookup_insert beneath below

lemma WorkingBelow.erase (below : WorkingBelow work working) :
    WorkingBelow work (working.erase rel) :=
  fun other path lookup => below other path (lookup_erase_eq_some.mp lookup).2

/-! ## Single calls -/

section

variable {allowed : FsRequest File → Prop} (request : FsRequest File)

lemma asks_fsCall (allows : allowed request) : Asks allowed (fun _ => True) (fsCall request) := by
  apply asks_request_bind allows
  intro answer
  cases answer with
  | ok => exact asks_pure trivial
  | error => exact asks_throw

lemma asks_fsTry (allows : allowed request) : Asks allowed (fun _ => True) (fsTry request) :=
  asks_request_bind allows fun _ => asks_pure trivial

lemma asks_transformCall (allows : allowed request) :
    Asks allowed (fun _ => True) (transformCall request) :=
  (@within_transformCall _ _ (fun _ => True) _ allows fun _ => trivial).asks

variable {request} {α : Type}

lemma asks_parquetResult {result : Except String α} :
    Asks allowed (fun _ => True) (parquetResult result : TransformM File α) :=
  (@within_parquetResult _ _ (fun _ => True) _ _ fun _ => trivial).asks

variable {path : String}

lemma asks_createParent
    (creates : ∀ above, parent path = some above → allowed (.createDirAll above)) :
    Asks allowed (fun _ => True) (createParent path) := by
  rw [createParent]
  split
  · rename_i above parent
    exact asks_fsCall _ (creates above parent)
  · exact asks_pure trivial

variable {cont : request.Result → LocalM File α}

lemma run_fsCall_bind : (fsCall request >>= cont).run = .call request fun answer =>
      match answer with
      | .ok result => (cont result).run
      | .error error => .done (.error (.io error.display)) := by
  refine congrArg (Program.call _) (funext fun answer => ?_)
  cases answer <;> rfl

variable {later : FsRequest File}

lemma mayAsk_fsCall_bind (result : request.Result) (mayAsk : (cont result).run.MayAsk later) :
    (fsCall request >>= cont).run.MayAsk later := by
  rw [run_fsCall_bind]
  exact .later (.ok result) mayAsk

lemma mayAsk_createParent_bind {cont : Unit → LocalM File α} (mayAsk : (cont ()).run.MayAsk later) :
    (createParent path >>= cont).run.MayAsk later := by
  rw [createParent]
  split
  · exact mayAsk_fsCall_bind () mayAsk
  · exact mayAsk

end

/-! ## Seeding -/

section

variable {root work : String}

/-- A parquet file of the scan is copied to its own relative path. -/
def Seeds (root work : String) (assets : List AssetRecord) (source target : String) : Prop :=
  ∃ asset ∈ assets, asset.format = .parquet ∧ source = asset.path ∧
    target = join work (relativize root asset.path)

/-- The requests of a seeding. -/
def SeedRequest (root work : String) (assets : List AssetRecord) : FsRequest File → Prop
  | .createDirAll above =>
    ∃ source target, Seeds root work assets source target ∧ parent target = some above
  | .copy source target => Seeds root work assets source target
  | _ => False

variable {assets : List AssetRecord}

lemma seedAssets_asks {all : List AssetRecord} (subset : assets ⊆ all)
    (seeded : ∀ rel path, working.lookup rel = some path → ∃ source, Seeds root work all source path) :
    Asks (SeedRequest root work all) (fun working => ∀ rel path, working.lookup rel = some path →
        ∃ source, Seeds root work all source path)
      (seedAssets root work assets working : LocalM File Working) := by
  induction assets generalizing working with
  | nil => exact asks_pure seeded
  | cons asset rest ih =>
    have later : rest ⊆ all := fun _ mem => subset (mem_cons_of_mem _ mem)
    rw [seedAssets]
    split
    · exact ih later seeded
    · rename_i format
      have seeds : Seeds root work all asset.path (join work (relativize root asset.path)) :=
        ⟨asset, subset mem_cons_self, not_not.mp format, rfl, rfl⟩
      refine asks_bind (asks_createParent fun above parent => ⟨_, _, seeds, parent⟩) fun _ _ => ?_
      refine asks_bind (asks_fsCall (.copy _ _) seeds) fun _ _ => ?_
      exact ih later (forall_lookup_insert ⟨_, seeds⟩ seeded)

lemma seedAssets_mayAsk {asset : AssetRecord}
    (mem : asset ∈ assets) (format : asset.format = .parquet) :
    (seedAssets root work assets working : LocalM File Working).run.MayAsk
      (.copy asset.path (join work (relativize root asset.path))) := by
  induction assets generalizing working with
  | nil => cases mem
  | cons head _ ih =>
    rw [seedAssets]
    by_cases skipped : head.format ≠ .parquet
    · rw [if_pos skipped]
      rcases mem_cons.mp mem with rfl | later
      · exact absurd format skipped
      · exact ih later
    · rw [if_neg skipped]
      apply mayAsk_createParent_bind
      rcases mem_cons.mp mem with rfl | later
      · rw [run_fsCall_bind]
        exact .here
      · exact mayAsk_fsCall_bind () (ih later)

end

/-! ## Remote seeding -/

section

variable {root : S3Location}

/-- The object is a parquet file of the dataset under this relative key. -/
def IsParquetKey (root : S3Location) (location : ObjectLocation) (rel : String) : Prop :=
  datasetObjectRelativeKey root location = some rel ∧ Str.endsWith rel ".parquet" = true

/-- A parquet object of the inventory is copied to its own relative key. -/
def SeedsObject (root : S3Location) (work : String) (objects : List ObjectMetadata)
    (location : ObjectLocation) (target : String) : Prop :=
  ∃ object ∈ objects, ∃ rel, IsParquetKey root object.location rel ∧
    location = object.location ∧ target = join work rel

/-- The requests of a remote seeding. -/
def RemoteSeedRequest (root : S3Location) (work : String) (objects : List ObjectMetadata) :
    FsRequest File ⊕ RemoteRequest File → Prop
  | .inl (.createDirAll _) => True
  | .inl (.write target _) => ∃ location, SeedsObject root work objects location target
  | .inr (.inl (.readStream _)) => True
  | _ => False

variable {α : Type}

lemma run_onDisk_fsCall_bind {request : FsRequest File}
    {cont : request.Result → StorageRepairM File α} :
    (onDisk (fsCall request) >>= cont).run = .call (.inl request) fun answer =>
      match answer with
      | .ok result => (cont result).run
      | .error error => .done (.error (.io error.display)) := by
  refine congrArg (Program.call _) (funext fun answer => ?_)
  cases answer <;> rfl

variable {object : ObjectLocation}

lemma run_readStream_bind {cont : File → StorageRepairM File α} :
    (onSource (Fallible.mapErr storageErr (storageCall (.readStream object))) >>= cont).run =
      .call (.inr (.inl (.readStream object))) fun answer =>
        match answer with
        | .ok contents => (cont contents).run
        | .error error => .done (.error (storageErr error)) := by
  refine congrArg (Program.call _) (funext fun answer => ?_)
  cases answer <;> rfl

lemma asks_storageCall {allowed : Request File → Prop} (request : Request File)
    (allows : allowed request) :
    Asks allowed (fun _ => True) (storageCall request) := by
  apply asks_request_bind allows
  intro answer
  cases answer with
  | ok => exact asks_pure trivial
  | error => exact asks_throw

/-- Copy one object into the working directory. -/
def seedObject (work : String) (location : ObjectLocation) (rel : String) :
    StorageRepairM File Unit := do
  onDisk (createParent (join work rel))
  streamObjectToFile location (join work rel)

/-- An object of the inventory is passed over or copied. -/
lemma seedObjects_cons (object : ObjectMetadata) (rest : List ObjectMetadata) (working : Working) :
    (seedObjects root work (object :: rest) working : StorageRepairM File Working) =
        seedObjects root work rest working ∧ (∀ rel, ¬ IsParquetKey root object.location rel) ∨
      ∃ rel, IsParquetKey root object.location rel ∧
        (seedObjects root work (object :: rest) working : StorageRepairM File Working) =
          seedObject work object.location rel >>= fun _ =>
            seedObjects root work rest (working.insert rel (join work rel)) := by
  rw [seedObjects]
  cases key : datasetObjectRelativeKey root object.location with
  | none =>
    refine .inl ⟨rfl, ?_⟩
    rintro rel ⟨found, -⟩
    rw [key] at found
    cases found
  | some rel =>
    dsimp only
    by_cases parquet : Str.endsWith rel ".parquet" = true
    · refine .inr ⟨rel, ⟨key, parquet⟩, ?_⟩
      rw [parquet, seedObject, bind_assoc]
      rfl
    · rw [Bool.not_eq_true] at parquet
      refine .inl ⟨by rw [parquet]; rfl, ?_⟩
      rintro _ ⟨found, isParquet⟩
      rw [key] at found
      cases found
      rw [parquet] at isParquet
      cases isParquet

lemma asks_seedObject {allowed : FsRequest File ⊕ RemoteRequest File → Prop}
    (creates : ∀ path, allowed (.inl (.createDirAll path)))
    (reads : allowed (.inr (.inl (.readStream object))))
    (writes : ∀ contents, allowed (.inl (.write (join work rel) contents))) :
    Asks allowed (fun _ => True) (seedObject work object rel) := by
  have read : Asks allowed (fun _ => True)
      (onSource (Fallible.mapErr storageErr (storageCall (.readStream object))) :
        StorageRepairM File File) :=
    asks_inr (asks_inl (asks_mapErr (asks_storageCall (.readStream object) reads)))
  refine asks_bind (asks_inl (asks_createParent fun above _ => creates above)) fun _ _ => ?_
  exact asks_bind read fun contents _ =>
    asks_inl (asks_fsCall (.write _ contents) (writes contents))

lemma seedObjects_asks {objects all : List ObjectMetadata} (subset : objects ⊆ all)
    (seeded : ∀ rel path, working.lookup rel = some path →
      ∃ location, SeedsObject root work all location path) :
    Asks (RemoteSeedRequest root work all)
      (fun working => ∀ rel path, working.lookup rel = some path →
        ∃ location, SeedsObject root work all location path)
      (seedObjects root work objects working : StorageRepairM File Working) := by
  induction objects generalizing working with
  | nil => exact asks_pure seeded
  | cons object rest ih =>
    have later : rest ⊆ all := fun _ mem => subset (mem_cons_of_mem _ mem)
    rcases seedObjects_cons object rest working with ⟨passes, -⟩ | ⟨rel, parquet, copies⟩
    · rw [passes]
      exact ih later seeded
    · have seeds : SeedsObject root work all object.location (join work rel) :=
        ⟨object, subset mem_cons_self, rel, parquet, rfl, rfl⟩
      rw [copies]
      refine asks_bind
        (asks_seedObject (fun _ => trivial) trivial fun _ => ⟨_, seeds⟩) fun _ _ => ?_
      exact ih later (forall_lookup_insert ⟨_, seeds⟩ seeded)

/-- The program can read an object and write a file right after it. -/
def Copies {α : Type} (object : ObjectLocation) (target : String)
    (prog : StorageRepairM File α) : Prop :=
  ∃ contents : File, prog.run.MayAskThen (.inr (.inl (.readStream object)))
    (.inl (.write target contents))

section

variable {object location : ObjectLocation} {rel target : String} {prog : StorageRepairM File α}

lemma mayAskThen_fsCall_bind {request : FsRequest File}
    {cont : request.Result → StorageRepairM File α} {second : FsRequest File ⊕ RemoteRequest File}
    (copies : (onDisk (fsCall request) >>= cont).run.MayAskThen
      (.inr (.inl (.readStream location))) second) :
    ∃ result, (cont result).run.MayAskThen (.inr (.inl (.readStream location))) second := by
  rw [run_onDisk_fsCall_bind] at copies
  rcases copies.of_call with ⟨never, -⟩ | ⟨answer, later⟩
  · cases never
  · cases answer with
    | ok result => exact ⟨result, later⟩
    | error => exact (Program.not_mayAskThen_done later).elim

lemma Copies.of_seedObject
    (copies : Copies location target (seedObject work object rel >>= fun _ => prog)) :
    location = object ∧ target = join work rel ∨ Copies location target prog := by
  obtain ⟨contents, copies⟩ := copies
  have streams : (streamObjectToFile object (join work rel) >>= fun _ => prog).run.MayAskThen
      (.inr (.inl (.readStream location))) (.inl (.write target contents)) := by
    rw [seedObject, bind_assoc, createParent] at copies
    split at copies
    · obtain ⟨⟨⟩, later⟩ := mayAskThen_fsCall_bind copies
      exact later
    · exact copies
  rw [streamObjectToFile, bind_assoc, run_readStream_bind] at streams
  rcases streams.of_call with ⟨same, answer, _, follows⟩ | ⟨answer, later⟩
  · cases same
    cases answer with
    | ok =>
      dsimp only at follows
      rw [run_onDisk_fsCall_bind] at follows
      cases follows
      exact .inl ⟨rfl, rfl⟩
    | error => cases follows
  · cases answer with
    | ok =>
      obtain ⟨⟨⟩, later⟩ := mayAskThen_fsCall_bind later
      exact .inr ⟨_, later⟩
    | error => exact (Program.not_mayAskThen_done later).elim

lemma mayAskThen_createParent_bind {path : String} {cont : Unit → StorageRepairM File α}
    {first second : FsRequest File ⊕ RemoteRequest File}
    (mayAsk : (cont ()).run.MayAskThen first second) :
    (onDisk (createParent path) >>= cont).run.MayAskThen first second := by
  rw [createParent]
  split
  · rw [run_onDisk_fsCall_bind]
    exact .later (.ok ()) mayAsk
  · exact mayAsk

lemma copies_seedObject (contents : File) :
    Copies object (join work rel) (seedObject work object rel >>= fun _ => prog) := by
  refine ⟨contents, ?_⟩
  rw [seedObject, bind_assoc]
  apply mayAskThen_createParent_bind
  rw [streamObjectToFile, bind_assoc, run_readStream_bind]
  exact .here (.ok contents) run_onDisk_fsCall_bind

lemma Copies.after_seedObject (contents : File) (copies : Copies location target prog) :
    Copies location target (seedObject work object rel >>= fun _ => prog) := by
  obtain ⟨written, mayAsk⟩ := copies
  refine ⟨written, ?_⟩
  rw [seedObject, bind_assoc]
  apply mayAskThen_createParent_bind
  rw [streamObjectToFile, bind_assoc, run_readStream_bind]
  refine .later (.ok contents) ?_
  dsimp only
  rw [run_onDisk_fsCall_bind]
  exact .later (.ok ()) mayAsk

end

variable {objects : List ObjectMetadata} {location : ObjectLocation} {target : String}

lemma Copies.of_seedObjects (copies : Copies location target
      (seedObjects root work objects working : StorageRepairM File Working)) :
    SeedsObject root work objects location target := by
  induction objects generalizing working with
  | nil =>
    obtain ⟨_, never⟩ := copies
    exact (Program.not_mayAskThen_done never).elim
  | cons object rest ih =>
    have widen : SeedsObject root work rest location target →
        SeedsObject root work (object :: rest) location target := by
      rintro ⟨other, mem, found⟩
      exact ⟨other, mem_cons_of_mem _ mem, found⟩
    rcases @seedObjects_cons File work root object rest working with
      ⟨passes, -⟩ | ⟨rel, parquet, seeds⟩
    · rw [passes] at copies
      exact widen (ih copies)
    · rw [seeds] at copies
      rcases copies.of_seedObject with ⟨rfl, rfl⟩ | later
      · exact ⟨object, mem_cons_self, rel, parquet, rfl, rfl⟩
      · exact widen (ih later)

lemma SeedsObject.copies (contents : File) (seeds : SeedsObject root work objects location target) :
    Copies location target
      (seedObjects root work objects working : StorageRepairM File Working) := by
  obtain ⟨_, mem, rel, parquet, rfl, rfl⟩ := seeds
  induction objects generalizing working with
  | nil => cases mem
  | cons head rest ih =>
    rcases @seedObjects_cons File work root head rest working with
      ⟨passes, other⟩ | ⟨name, isParquet, seeds⟩
    · rw [passes]
      rcases mem_cons.mp mem with rfl | later
      · exact absurd parquet (other rel)
      · exact ih later
    · rw [seeds]
      rcases mem_cons.mp mem with rfl | later
      · cases Option.some.inj (parquet.1.symm.trans isParquet.1)
        exact copies_seedObject contents
      · exact (ih later).after_seedObject contents

lemma copies_seedWorkDirFromRemote {inventory : RemoteInventory} : Copies location target
        (seedWorkDirFromRemote root inventory work : StorageRepairM File Working) ↔
      Copies location target
        (seedObjects root work inventory.objects ∅ : StorageRepairM File Working) := by
  have converts : (seedWorkDirFromRemote root inventory work : StorageRepairM File Working).run =
      (seedObjects root work inventory.objects ∅ : StorageRepairM File Working).run >>=
        fun result => .done (result.bind fun working =>
          if working.keys.isEmpty then
            .error (.datasetUnreadable "remote inventory contains no parquet objects")
          else .ok working) := by
    rw [seedWorkDirFromRemote, ExceptT.run_bind]
    congr 1
    funext result
    cases result with
    | ok =>
      dsimp only [Except.bind]
      split <;> rfl
    | error => rfl
  rw [Copies, Copies, converts]
  exact exists_congr fun contents => Program.mayAskThen_bind_done

end

/-! ## Transforms -/

section

variable {path : String}

lemma confined_write {contents : File} (beneath : Beneath (resolve work) (resolve path)) :
    (write path contents).Confined work :=
  ⟨fun _ touched => touched ▸ beneath, fun _ never => by cases never⟩

variable {source target : String}

lemma confined_copy (beneath : Beneath (resolve work) (resolve target)) :
    (copy source target : FsRequest File).Confined work :=
  ⟨fun _ touched => touched ▸ beneath, fun _ never => by cases never⟩

lemma confined_rename (first : Beneath (resolve work) (resolve source))
    (second : Beneath (resolve work) (resolve target)) :
    (rename source target : FsRequest File).Confined work := by
  refine ⟨?_, fun _ never => by cases never⟩
  rintro _ (rfl | rfl)
  · exact first
  · exact second

lemma confined_removeFile (beneath : Beneath (resolve work) (resolve path)) :
    (removeFile path : FsRequest File).Confined work :=
  ⟨fun _ touched => touched ▸ beneath, fun _ never => by cases never⟩

lemma confined_removeDirAll (beneath : Beneath (resolve work) (resolve path)) :
    (removeDirAll path : FsRequest File).Confined work :=
  ⟨fun _ inside => beneath.below inside, fun _ never => by cases never⟩

lemma confined_createDirAll (below : AtOrBeneath (resolve work) (resolve path)) :
    (createDirAll path : FsRequest File).Confined work := by
  refine ⟨fun _ touched => touched.elim, ?_⟩
  rintro _ ⟨⟩
  exact below

lemma confined_read (path : String) : (read path : FsRequest File).Confined work :=
  ⟨fun _ touched => touched.elim, fun _ never => by cases never⟩

lemma transformFile_asks {convert : File → Except String File} {input output : String}
    (beneath : Beneath (resolve work) (resolve output)) :
    Asks (Confined work) (fun _ => True) (transformFile convert input output) := by
  refine asks_bind (asks_transformCall _ (confined_read input)) fun contents _ => ?_
  refine asks_bind asks_parquetResult fun result _ => ?_
  refine @asks_bind _ _ _ _ _ _ (fun _ => True) _ _ _ ?_ fun _ _ =>
    asks_transformCall _ (confined_write beneath)
  rw [createOutputDir]
  split
  · rename_i parent
    exact asks_transformCall _ (confined_createDirAll (atOrBeneath_parent beneath parent))
  · exact asks_pure trivial

/-- A merge below the working directory stays there. -/
lemma mergeParquetFiles_asks (tools : Toolkit File Schema Batch) [DecidableEq Schema]
    (target : MergeTarget) (free : '/' ∉ target.basename.toList)
    (outputDir : Beneath (resolve work) (resolve target.outputDir)) (inputs : List String) :
    Asks (Confined work) (fun _ => True) (mergeParquetFiles tools target inputs) :=
  (@within_mergeParquetFiles _ _ _ _ (fun _ => True) _ _ (fun _ => ⟨trivial, trivial, trivial⟩)
    (fun idx _ => confined_write (outputDir.below (target.below_partPath free idx))) _
    confined_read _ (confined_createDirAll (.inr outputDir))).asks

end

/-! ## Operations -/

section

variable (below : WorkingBelow work working)

include below

lemma rewriteEach_asks {extension missing : String}
    {transform : (input output : String) → TransformM File Unit}
    (long : 2 < extension.toList.length) (free : '/' ∉ extension.toList)
    (transforms : ∀ input output, Beneath (resolve work) (resolve output) →
      Asks (Confined work) (fun _ => True) (transform input output))
    (rels : List String) :
    Asks (Confined work) (fun _ => True)
      (rewriteEach extension missing transform working rels) := by
  induction rels with
  | nil => exact asks_pure trivial
  | cons rel _ ih =>
    rw [rewriteEach]
    split
    · exact asks_throw
    · rename_i src found
      have source := below rel src found
      have beside := beneath_withExtension long free source
      refine asks_bind (asks_mapErr (transforms _ _ beside)) fun _ _ => ?_
      exact asks_bind (asks_fsCall _ (confined_rename beside source)) fun _ _ => ih

lemma removeConsumed_asks (rels : List String) : Asks (Confined work) (WorkingBelow work)
      (removeConsumed rels working : LocalM File Working) := by
  induction rels generalizing working with
  | nil => exact asks_pure below
  | cons rel _ ih =>
    rw [removeConsumed]
    split
    · exact ih below
    · rename_i path found
      exact asks_bind (asks_fsTry _ (confined_removeFile (below rel path found)))
        fun _ _ => ih below.erase

variable {nameOf : Nat → String} (inside : ∀ idx, Inside (nameOf idx))

include inside

lemma copyOutputs_asks (idx : Nat) (outputs : List String) :
    Asks (Confined work) (WorkingBelow work)
      (copyOutputs work nameOf idx outputs working : LocalM File Working) := by
  induction outputs generalizing idx working with
  | nil => exact asks_pure below
  | cons _ _ ih =>
    have beneath := (inside idx).beneath_join work
    refine asks_bind (asks_fsCall (.copy _ _) (confined_copy beneath)) fun _ _ => ?_
    exact ih (below.insert beneath) (idx + 1)

lemma replaceFiles_asks {scratch : String} {transform : TransformM File (List String)}
    (scratchBelow : Beneath (resolve work) (resolve scratch))
    (transforms : Asks (Confined work) (fun _ => True) transform) (consumed : List String) :
    Asks (Confined work) (WorkingBelow work)
      (replaceFiles work scratch transform consumed nameOf working) := by
  refine asks_bind (asks_fsCall _ (confined_createDirAll (.inr scratchBelow))) fun _ _ => ?_
  refine asks_bind (asks_mapErr transforms) fun outputs _ => ?_
  refine asks_bind (removeConsumed_asks below consumed) fun kept keptBelow => ?_
  refine asks_bind (copyOutputs_asks keptBelow inside 0 outputs) fun filled full => ?_
  exact asks_bind (asks_fsTry _ (confined_removeDirAll scratchBelow)) fun _ _ =>
    asks_pure full

end

/-- Whether the parts of a split stay below does not depend on their numbers. -/
lemma inside_splitName {inputPath : String} (idx other : Nat)
    (inside : Inside (splitName inputPath idx)) : Inside (splitName inputPath other) := by
  obtain ⟨_, name, rfl, closed, free⟩ := exists_dir_name inputPath
  have isName : ∀ number : Nat, IsName (name ++ splitSuffix number) := by
    intro number
    apply isName_of_length
    · have suffix := splitSuffix_length number
      rw [String.toList_append, length_append]
      omega
    · rw [String.toList_append, mem_append, not_or]
      exact ⟨free, slash_not_mem_splitSuffix number⟩
  rw [splitName_eq, String.append_assoc] at inside ⊢
  exact inside.withName closed (isName idx) (isName other)

/-- The parts of a split that an operation makes are named below where they start. -/
def SplitInside (op : RepairOperation) : Prop :=
  ∀ targetBytes inputPath, op.action = .splitLargeFile targetBytes inputPath →
    Inside (splitName inputPath 0)

variable {op : RepairOperation}

lemma applyOperation_confined (tools : Toolkit File Schema Batch) [DecidableEq Schema]
    (inside : SplitInside op) (root work : String) (below : WorkingBelow work working) :
    Asks (Confined work) (WorkingBelow work) (applyOperation tools op root work working) := by
  have kept : ∀ {rewrite : LocalM File Unit}, Asks (Confined work) (fun _ => True) rewrite →
      Asks (Confined work) (WorkingBelow work) (inPlace working rewrite) :=
    fun rewrites => asks_bind rewrites fun _ _ => asks_pure below
  have scratch : ∀ {name : String}, IsName name →
      Beneath (resolve work) (resolve (join work name)) :=
    fun isName => (inside_of_isName isName).beneath_join work
  rw [applyOperation]
  split
  case h_1 targetBytes inputPaths _ =>
    rw [mergeSmallFiles]
    split
    · exact asks_pure below
    · exact replaceFiles_asks below (fun idx => inside_of_isName (isName_mergedName idx))
        (scratch (by decide)) (mergeParquetFiles_asks tools (mergeTarget work targetBytes)
          (show '/' ∉ "part".toList by decide) (scratch (by decide)) _) _
  case h_2 targetBytes inputPath action =>
    exact replaceFiles_asks below
      (fun idx => inside_splitName 0 idx (inside targetBytes inputPath action))
      (scratch (by decide)) (mergeParquetFiles_asks tools (splitTarget work targetBytes)
        (show '/' ∉ "split".toList by decide) (scratch (by decide)) _) _
  case h_9 => exact asks_throw
  all_goals exact kept (rewriteEach_asks below (by decide) (by decide)
      (fun _ _ beneath => transformFile_asks beneath) _)

lemma applyOperation_asks (tools : Toolkit File Schema Batch) [DecidableEq Schema]
    (inside : SplitInside op) (root work : String) (below : WorkingBelow work working) :
    Asks (Within work) (WorkingBelow work) (applyOperation tools op root work working) :=
  (applyOperation_confined tools inside root work below).weaken (fun _ confined => confined.1)
    fun _ kept => kept

/-! ## A repair stays in its working directory -/

/-- A step that leaves the files outside of the working directory as they are. -/
def KeepsOutside (work : String) (before after : Disk File) : Prop :=
  ∀ place, ¬ Beneath (resolve work) place → after.files.lookup place = before.files.lookup place

/-- The program creates, overwrites and deletes files below the working directory only, so its runs
leave all other files alone. -/
structure Contained (work : String) (prog : LocalM File Working) : Prop where
  asks : Asks (Within work) (WorkingBelow work) prog
  outside : ∀ (truncated : File) (disk : Disk File),
    prog.run.wp (Disk.service truncated) (KeepsOutside work) (fun _ _ => True) disk

lemma Contained.of_asks {prog : LocalM File Working}
    (asks : Asks (Within work) (WorkingBelow work) prog) :
    Contained work prog where
  asks := asks
  outside := by
    intro _ _
    refine Program.wp_mono (fun _ _ _ => trivial) (Program.Asks.wp_of_keeps asks ?_)
    intro _ _ _ _ within answers place outside
    exact Disk.lookup_of_answers answers fun touched => outside (within place touched)

/-- The requests of a seeding from a remote source: objects are read, and files below the
working directory are written. -/
def RemoteWithin (work : String) : FsRequest File ⊕ RemoteRequest File → Prop
  | .inl request => request.Within work
  | .inr (.inl (.readStream _)) => True
  | .inr _ => False

/-- Seeding and the operations write below the working directory, and distinct sources are seeded
to distinct files. -/
structure RepairContained (plan : RepairPlan) (scan : ScanReport) (root : S3Location)
    (inventory : RemoteInventory) : Prop where
  seeding : ∀ (File : Type) (work : String),
    Contained work (seedWorkDir plan.datasetRoot work scan : LocalM File Working)
  seedsApart : ∀ (File : Type) (work source target other place : String),
    (seedWorkDir plan.datasetRoot work scan : LocalM File Working).run.MayAsk
      (.copy source target) →
    (seedWorkDir plan.datasetRoot work scan : LocalM File Working).run.MayAsk (.copy other place) →
    resolve target = resolve place → resolve source = resolve other
  remoteSeeding : ∀ (File : Type) (work : String), Asks (RemoteWithin work) (WorkingBelow work)
      (seedWorkDirFromRemote root inventory work : StorageRepairM File Working)
  objectsApart : ∀ (File : Type) (work target place : String) (object other : ObjectLocation),
    Copies object target (seedWorkDirFromRemote root inventory work : StorageRepairM File Working) →
    Copies other place (seedWorkDirFromRemote root inventory work : StorageRepairM File Working) →
    resolve target = resolve place → object = other
  operations : ∀ op ∈ plan.operations, ∀ (File Schema Batch : Type) [DecidableEq Schema]
    (tools : Toolkit File Schema Batch) (base work : String) (working : Working),
    WorkingBelow work working → Contained work (applyOperation tools op base work working)

/-- The relative names in the scan, the inventory and the plan go down, and distinct sources
have distinct names. -/
structure NamesInside (plan : RepairPlan) (scan : ScanReport) (root : S3Location)
    (inventory : RemoteInventory) : Prop where
  assets : ∀ asset ∈ scan.assets, asset.format = .parquet →
    Inside (relativize plan.datasetRoot asset.path)
  assetsApart : ∀ asset ∈ scan.assets, ∀ other ∈ scan.assets,
    asset.format = .parquet → other.format = .parquet →
    resolve (relativize plan.datasetRoot asset.path) =
      resolve (relativize plan.datasetRoot other.path) →
    resolve asset.path = resolve other.path
  objects : ∀ object ∈ inventory.objects, ∀ rel, IsParquetKey root object.location rel → Inside rel
  objectsApart : ∀ object ∈ inventory.objects, ∀ other ∈ inventory.objects, ∀ rel key,
    IsParquetKey root object.location rel → IsParquetKey root other.location key →
    resolve rel = resolve key → object.location = other.location
  splits : ∀ op ∈ plan.operations, SplitInside op

section

variable {plan : RepairPlan} {scan : ScanReport} {root : S3Location} {inventory : RemoteInventory}
  {base work target : String}

lemma Seeds.beneath {source : String} {assets : List AssetRecord}
    (inside : ∀ asset ∈ assets, asset.format = .parquet → Inside (relativize base asset.path))
    (seeds : Seeds base work assets source target) :
    Beneath (resolve work) (resolve target) := by
  obtain ⟨asset, mem, format, -, rfl⟩ := seeds
  exact (inside asset mem format).beneath_join work

lemma SeedsObject.beneath {location : ObjectLocation} {objects : List ObjectMetadata}
    (inside : ∀ object ∈ objects, ∀ rel, IsParquetKey root object.location rel → Inside rel)
    (seeds : SeedsObject root work objects location target) :
    Beneath (resolve work) (resolve target) := by
  obtain ⟨object, mem, rel, parquet, -, rfl⟩ := seeds
  exact (inside object mem rel parquet).beneath_join work

lemma seedWorkDir_asks (base work : String) (scan : ScanReport) :
    Asks (SeedRequest base work scan.assets)
      (fun working => ∀ rel path, working.lookup rel = some path →
        ∃ source, Seeds base work scan.assets source path)
      (seedWorkDir base work scan : LocalM File Working) := by
  refine seedAssets_asks (List.Subset.refl _) ?_
  intro _ _ found
  rw [AList.lookup_empty] at found
  cases found

lemma seedWorkDirFromRemote_asks (root : S3Location) (inventory : RemoteInventory) (work : String) :
    Asks (RemoteSeedRequest root work inventory.objects)
      (fun working => ∀ rel path, working.lookup rel = some path →
        ∃ location, SeedsObject root work inventory.objects location path)
      (seedWorkDirFromRemote root inventory work : StorageRepairM File Working) := by
  refine asks_bind (seedObjects_asks (List.Subset.refl _) ?_) fun working seeded => ?_
  · intro _ _ found
    rw [AList.lookup_empty] at found
    cases found
  · split
    · exact asks_throw
    · exact asks_pure seeded

lemma seedWorkDir_confined (inside : ∀ asset ∈ scan.assets, asset.format = .parquet →
      Inside (relativize base asset.path)) :
    Asks (Confined work) (WorkingBelow work)
      (seedWorkDir base work scan : LocalM File Working) := by
  refine (seedWorkDir_asks base work scan).weaken ?_ ?_
  · intro request asked
    cases request with
    | createDirAll =>
      obtain ⟨_, _, seeds, parent⟩ := asked
      exact confined_createDirAll (atOrBeneath_parent (seeds.beneath inside) parent)
    | copy => exact confined_copy (Seeds.beneath inside asked)
    | _ => exact asked.elim
  · intro _ seeded rel path found
    obtain ⟨_, seeds⟩ := seeded rel path found
    exact seeds.beneath inside

lemma NamesInside.contained (names : NamesInside plan scan root inventory) :
    RepairContained plan scan root inventory where
  seeding := by
    intro File work
    exact Contained.of_asks ((seedWorkDir_confined names.assets).weaken
      (fun _ confined => confined.1) fun _ below => below)
  seedsApart := by
    intro File work _ target _ _ first second same
    obtain ⟨asset, mem, format, rfl, rfl⟩ :=
      of_mayAsk (seedWorkDir_asks plan.datasetRoot work scan) first
    obtain ⟨next, nextMember, nextFormat, rfl, rfl⟩ :=
      of_mayAsk (seedWorkDir_asks plan.datasetRoot work scan) second
    exact names.assetsApart asset mem next nextMember format nextFormat
      ((names.assets asset mem format).resolve_join_inj
        (names.assets next nextMember nextFormat) same)
  remoteSeeding := by
    intro File work
    refine (seedWorkDirFromRemote_asks root inventory work).weaken ?_ ?_
    · intro request asked
      match request, asked with
      | .inl (.createDirAll path), _ => exact fun _ touched => touched.elim
      | .inl (.write target _), ⟨location, seeds⟩ =>
        exact (confined_write (seeds.beneath names.objects)).1
      | .inr (.inl (.readStream _)), _ => trivial
    · intro _ seeded rel path found
      obtain ⟨_, seeds⟩ := seeded rel path found
      exact seeds.beneath names.objects
  objectsApart := by
    intro _ work _ _ _ _ first second same
    obtain ⟨found, mem, rel, parquet, rfl, rfl⟩ :=
      (copies_seedWorkDirFromRemote.mp first).of_seedObjects
    obtain ⟨next, nextMember, key, nextParquet, rfl, rfl⟩ :=
      (copies_seedWorkDirFromRemote.mp second).of_seedObjects
    exact names.objectsApart found mem next nextMember rel key parquet nextParquet
      ((names.objects found mem rel parquet).resolve_join_inj
        (names.objects next nextMember key nextParquet) same)
  operations := by
    intro op mem _ _ _ _ tools base work _ below
    exact .of_asks (applyOperation_asks tools (names.splits op mem) base work below)

/-- A split can come to copy its first part. -/
lemma applyOperation_mayAsk {targetBytes : Nat} {inputPath : String}
    (action : op.action = .splitLargeFile targetBytes inputPath) :
    ∃ part, (applyOperation (Toolkit.ofRows id id : Toolkit (List Unit) Unit Unit) op "" "" ∅ :
      LocalM (List Unit) Working).run.MayAsk (.copy part (join "" (splitName inputPath 0))) := by
  rw [applyOperation, action]
  refine ⟨(splitTarget "" targetBytes).partPath 0, ?_⟩
  exact .later (.ok ()) <| .later (.ok ()) <| .later (.ok [()]) <| .later (.ok ()) <|
    .later (.ok ()) .here

/-- The working directory may be the current one; then every name is its own destination. -/
lemma RepairContained.names (contained : RepairContained plan scan root inventory) :
    NamesInside plan scan root inventory where
  assets := by
    intro _ mem format
    have within := of_mayAsk (contained.seeding Unit "").asks (seedAssets_mayAsk mem format)
    exact inside_of_beneath (within _ rfl)
  assetsApart := by
    intro _ mem other otherMember format otherFormat _
    refine contained.seedsApart Unit "" _ _ _ _ (seedAssets_mayAsk mem format)
      (seedAssets_mayAsk otherMember otherFormat) ?_
    rwa [join_empty, join_empty]
  objects := by
    intro object mem rel parquet
    obtain ⟨_, mayAsk⟩ := copies_seedWorkDirFromRemote.mpr
      (SeedsObject.copies () ⟨object, mem, rel, parquet, rfl, rfl⟩)
    have within := of_mayAsk (contained.remoteSeeding Unit "") mayAsk.second
    exact inside_of_beneath (within _ rfl)
  objectsApart := by
    intro object mem other otherMember rel key parquet otherParquet _
    refine contained.objectsApart Unit "" _ _ _ _ (copies_seedWorkDirFromRemote.mpr
        (SeedsObject.copies () ⟨object, mem, rel, parquet, rfl, rfl⟩))
      (copies_seedWorkDirFromRemote.mpr
        (SeedsObject.copies () ⟨other, otherMember, key, otherParquet, rfl, rfl⟩)) ?_
    rwa [join_empty, join_empty]
  splits := by
    intro op mem _ _ action
    obtain ⟨_, mayAsk⟩ := applyOperation_mayAsk action
    have within := of_mayAsk
      (contained.operations op mem _ _ _ _ "" "" ∅ (WorkingBelow.empty "")).asks mayAsk
    exact inside_of_beneath (within _ rfl)

/-- A repair stays in its working directory, with a file of its own for every source, exactly when
the names that it takes from scan, inventory and plan stay below where they start and are distinct.
-/
theorem repair_contained_iff (plan : RepairPlan) (scan : ScanReport) (root : S3Location)
    (inventory : RemoteInventory) :
    RepairContained plan scan root inventory ↔ NamesInside plan scan root inventory :=
  ⟨RepairContained.names, NamesInside.contained⟩

end

namespace Reference

open Storage.Reference

/-- A plan for the dataset under a relative name, while the scan has absolute paths. -/
def relativePlan : RepairPlan := { planOf "a" [] with datasetRoot := "d" }

def bucket : S3Location := ⟨"b", ""⟩

/-- The seeding copies the asset onto itself, and nothing is left of it. -/
theorem asset_outside_root_truncated :
    (diskOf [("a", "xy")]).fileAt "/d/a" = some (.contents "xy") ∧
      (∃ working after, Fallible.Returns (Disk.service tools.created)
        (seedWorkDir relativePlan.datasetRoot "/w" (scanOf ["a"])) (diskOf [("a", "xy")]) working
        after ∧ after.fileAt "/d/a" = some (.contents "")) ∧
      ¬ RepairContained relativePlan (scanOf ["a"]) bucket ⟨.s3 bucket, []⟩ := by
  refine ⟨by decide, ?_, ?_⟩
  · obtain ⟨working, after, returns, truncated⟩ :=
      @exists_returns_of_eval _ _ _ _ _ (Disk.service tools.created)
        (diskOf [("a", "xy")]) (seedWorkDir relativePlan.datasetRoot "/w" (scanOf ["a"]))
        (fun _ after => after.fileAt "/d/a" = some (.contents "")) (by decide)
    exact ⟨working, after, returns, of_decide_eq_true truncated⟩
  · intro contained
    have within := of_mayAsk (contained.seeding Unit "/w").asks
      (seedAssets_mayAsk mem_cons_self rfl)
    obtain ⟨_, _, equal, -⟩ := within _ rfl
    have target : resolve (join "/w" (relativize "d" "/d/a")) = ["/", "d", "a"] := by
      decide
    have work : resolve "/w" = ["/", "w"] := by decide
    rw [work] at equal
    exact absurd (target.symm.trans equal) (by simp)

end Reference

end Parqonaut.Repair
