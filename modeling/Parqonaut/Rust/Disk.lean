import Mathlib.Algebra.BigOperators.Group.List.Basic
import Mathlib.Algebra.Ring.Int.Defs
import Mathlib.Algebra.Ring.Nat
import Mathlib.Data.List.AList
import Mathlib.Data.List.Sort
import Mathlib.Data.String.Basic
import Parqonaut.Effects.Outcome
import Parqonaut.Rust.Path

/-!
# A local file system

Files and directories under path texts, and the calls of `std::fs` and `walkdir` on them. The
contents of a file are a parameter. Symbolic links and permissions are not modelled.
-/

namespace Parqonaut.Rust

open Effects
open Path (resolve)

section

variable {α β : Type} [DecidableEq α] {map : AList fun _ : α => β} {holds : α → β → Prop} {key : α}

lemma forall_lookup_insert {value : β} (new : holds key value)
    (old : ∀ other found, map.lookup other = some found → holds other found) :
    ∀ other found, (map.insert key value).lookup other = some found → holds other found := by
  intro other found known
  by_cases same : other = key
  · rw [same, AList.lookup_insert] at known
    cases known
    exact same ▸ new
  · rw [AList.lookup_insert_ne same] at known
    exact old other found known

lemma lookup_erase_eq_some {other : α} {found : β} :
    (map.erase key).lookup other = some found ↔ other ≠ key ∧ map.lookup other = some found := by
  by_cases same : other = key
  · rw [same, AList.lookup_erase]
    simp
  · simp [same, AList.lookup_erase_ne same]

end

variable {File : Type}

/-- Files and directories, by the names that lead to them. -/
structure Disk (File : Type) where
  files : AList fun _ : List String => File
  dirs : List (List String)

inductive IoError where
  | notFound (path : String)
  | notADirectory (path : String)
  | isADirectory (path : String)
  | failed (message : String)
  deriving DecidableEq

def IoError.display : IoError → String
  | .notFound path => "No such file or directory: " ++ path
  | .notADirectory path => "Not a directory: " ++ path
  | .isADirectory path => "Is a directory: " ++ path
  | .failed message => message

/-- Calls made on the local file system. -/
inductive FsRequest (File : Type) where
  | exists (path : String)
  | isFile (path : String)
  | createDirAll (path : String)
  | read (path : String)
  | write (path : String) (contents : File)
  | copy (source target : String)
  | rename (source target : String)
  | removeFile (path : String)
  | removeDirAll (path : String)
  | walkFiles (path : String)

@[reducible] def FsRequest.Result : FsRequest File → Type
  | .exists _ => Bool
  | .isFile _ => Bool
  | .read _ => File
  | .walkFiles _ => List String
  | .createDirAll _ | .write .. | .copy .. | .rename .. | .removeFile _ | .removeDirAll _ => Unit

@[reducible] def FsRequest.Answer (request : FsRequest File) : Type :=
  Except IoError request.Result

variable (truncated : File) (disk : Disk File) (path : String)

namespace Disk

def fileAt : Option File :=
  disk.files.lookup (resolve path)

def isDir (place : List String) : Bool :=
  place = [] || place = ["/"] || disk.dirs.contains place

/-- `place` lies below the directory `above`. -/
def below (above place : List String) : Bool :=
  above.isPrefixOf place && above.length < place.length

lemma below_iff {above place : List String} :
    below above place = true ↔ ∃ name rest, place = above ++ name :: rest := by
  rw [below, Bool.and_eq_true, List.isPrefixOf_iff_prefix, decide_eq_true_eq]
  constructor
  · rintro ⟨⟨rest, rfl⟩, longer⟩
    cases rest with
    | nil => simp at longer
    | cons name rest => exact ⟨name, rest, rfl⟩
  · rintro ⟨_, _, rfl⟩
    exact ⟨List.prefix_append _ _, by simp⟩

/-- Store a file. The directory that holds it has to exist. -/
def put (contents : File) : Except IoError Unit × Disk File :=
  let place := resolve path
  if disk.isDir place then (.error (.isADirectory path), disk)
  else if !disk.isDir place.dropLast then (.error (.notFound path), disk)
  else (.ok (), { disk with files := disk.files.insert place contents })

/-- `fs::create_dir_all`: every directory on the way is created. -/
def createDirAll : Except IoError Unit × Disk File :=
  let place := resolve path
  if place.inits.any fun part => (disk.files.lookup part).isSome then
    (.error (.notADirectory path), disk)
  else (.ok (), { disk with dirs := disk.dirs ++ place.inits })

/-- `fs::copy`. A file that is copied onto itself is truncated first, so that nothing
is left to copy. -/
def copy (source target : String) : Except IoError Unit × Disk File :=
  match disk.fileAt source with
  | none => (.error (.notFound source), disk)
  | some contents =>
    disk.put target (if resolve source = resolve target then truncated else contents)

/-- `fs::rename` of a file. -/
def rename (source target : String) : Except IoError Unit × Disk File :=
  match disk.fileAt source with
  | none => (.error (.notFound source), disk)
  | some contents =>
    if resolve source = resolve target then (.ok (), disk)
    else
      match disk.put target contents with
      | (.ok (), moved) =>
        (.ok (), { moved with files := moved.files.erase (resolve source) })
      | (.error error, same) => (.error error, same)

def removeFile : Except IoError Unit × Disk File :=
  match disk.fileAt path with
  | none => (.error (.notFound path), disk)
  | some _ => (.ok (), { disk with files := disk.files.erase (resolve path) })

/-- Files that satisfy `keep`. -/
def filterFiles (keep : List String → Bool) (files : AList fun _ : List String => File) :
    AList fun _ : List String => File where
  entries := files.entries.filter fun entry => keep entry.1
  nodupKeys := files.nodupKeys.sublist List.filter_sublist

/-- `fs::remove_dir_all`. -/
def removeDirAll : Except IoError Unit × Disk File :=
  let place := resolve path
  if !disk.isDir place then (.error (.notFound path), disk)
  else
    (.ok (), {
      files := filterFiles (fun file => !below place file) disk.files
      dirs := disk.dirs.filter fun dir => !place.isPrefixOf dir })

/-- Files below a directory, sorted by their names, as path texts relative to it. -/
def walkFiles : Except IoError (List String) :=
  let place := resolve path
  if !disk.isDir place then .error (.notFound path)
  else
    .ok ((((disk.files.keys.filter (below place)).map fun file =>
      file.drop place.length).insertionSort (· ≤ ·)).map fun names => String.intercalate "/" names)

/-- File system serving one call. `truncated` is the empty file. -/
def serve : (request : FsRequest File) → Disk File → request.Answer × Disk File
  | .exists path, disk =>
    (.ok ((disk.fileAt path).isSome || disk.isDir (resolve path)), disk)
  | .isFile path, disk => (.ok (disk.fileAt path).isSome, disk)
  | .createDirAll path, disk => disk.createDirAll path
  | .read path, disk =>
    match disk.fileAt path with
    | some contents => (.ok contents, disk)
    | none => (.error (.notFound path), disk)
  | .write path contents, disk => disk.put path contents
  | .copy source target, disk => disk.copy truncated source target
  | .rename source target, disk => disk.rename source target
  | .removeFile path, disk => disk.removeFile path
  | .removeDirAll path, disk => disk.removeDirAll path
  | .walkFiles path, disk => (disk.walkFiles path, disk)

/-- File system as a service whose calls may fail without effect. Asking for the
existence of a file never fails. -/
def service : Service (FsRequest File) FsRequest.Answer (Disk File) where
  serve := serve truncated
  faulty
    | .exists _, _ | .isFile _, _ => False
    | _, answer => ∃ message : String, answer = .error (.failed message)

variable {truncated : File} {disk after : Disk File}

lemma serve_read_eq_ok {path : String} {contents : File} :
    serve truncated (.read path) disk = (.ok contents, after) ↔
      disk.fileAt path = some contents ∧ after = disk := by
  unfold serve
  dsimp only
  cases disk.fileAt path with
  | none => simp
  | some => simp [eq_comm]

variable {request : FsRequest File} {result : request.Result}

/-- A call that succeeds was served. -/
lemma serve_of_answers_ok (answers : (service truncated).Answers request disk (.ok result) after) :
    serve truncated request disk = (.ok result, after) := by
  rcases answers with served | ⟨faulty, _⟩
  · exact served.symm
  · cases request with
    | «exists» | isFile => exact faulty.elim
    | _ =>
      obtain ⟨_, never⟩ := faulty
      cases never

/-- A call whose errors end the computation was served if the computation goes on. -/
lemma serve_of_returns {ε : Type} {convert : IoError → ε}
    (returns : Fallible.Returns (service truncated) (do
      match ← Fallible.request request with
      | .ok result => return result
      | .error error => throw (convert error) :
        Fallible (FsRequest File) FsRequest.Answer ε request.Result) disk result after) :
    serve truncated request disk = (.ok result, after) := by
  obtain ⟨answer, _, answers, rest⟩ := Fallible.returns_request_bind.mp returns
  cases answer with
  | ok =>
    cases rest.of_pure
    exact serve_of_answers_ok answers
  | error => cases rest.of_throw

end Disk

end Parqonaut.Rust

/-!
# Totals over the files of a disk

The sum of a measure over all files, how it changes when a file is stored or removed,
and what the calls of the file system do to the files when they succeed.
-/

namespace Parqonaut.Rust.Disk

open List AList Path

variable {File M : Type} [AddCommMonoid M] {files others : AList fun _ : List String => File}
  {place : List String}

/-- Sum of a measure over all stored files. -/
def total (measure : List String → File → M) (files : AList fun _ : List String => File) : M :=
  (files.entries.map fun entry => measure entry.1 entry.2).sum

section

variable (measure : List String → File → M)
include measure

/-- The total depends on the contents of the places only. -/
lemma total_congr (same : ∀ place, files.lookup place = others.lookup place) :
    total measure files = total measure others := by
  apply List.Perm.sum_eq
  apply List.Perm.map
  apply lookup_ext files.nodupKeys others.nodupKeys
  intro place contents
  exact iff_of_eq (congrArg (contents ∈ ·) (same place))

private lemma sum_kerase
    (entries : List (Sigma fun _ : List String => File)) (place : List String) :
    (entries.map fun entry => measure entry.1 entry.2).sum =
      ((entries.kerase place).map fun entry => measure entry.1 entry.2).sum +
        (entries.dlookup place).elim 0 (measure place) := by
  induction entries with
  | nil => simp
  | cons entry _ ih =>
    obtain ⟨key, _⟩ := entry
    by_cases same : place = key
    · subst same
      simp [add_comm]
    · rw [kerase_cons_ne same, dlookup_cons_ne _ _ same, map_cons,
        sum_cons, map_cons, sum_cons, ih, add_assoc]

/-- Removing a file takes its measure away. -/
lemma total_erase (place : List String) : total measure files =
      total measure (files.erase place) + (files.lookup place).elim 0 (measure place) :=
  sum_kerase measure files.entries place

lemma total_insert (contents : File) : total measure (files.insert place contents) =
      measure place contents + total measure (files.erase place) := by
  rw [total, entries_insert, map_cons, sum_cons]
  rfl

/-- Files at distinct free places add their measures. -/
lemma total_of_added {places : List (List String)}
    (distinct : places.Nodup) (free : ∀ place ∈ places, files.lookup place = none)
    (same : ∀ place, place ∉ places → others.lookup place = files.lookup place) :
    total measure others = total measure files +
      (places.map fun place => (others.lookup place).elim 0 (measure place)).sum := by
  induction places generalizing others with
  | nil =>
    rw [map_nil, sum_nil, add_zero]
    exact total_congr measure fun place => same place not_mem_nil
  | cons place rest ih =>
    obtain ⟨absent, distinct⟩ := nodup_cons.mp distinct
    obtain ⟨empty, free⟩ := forall_mem_cons.mp free
    have kept : ∀ other ∈ rest, (others.erase place).lookup other = others.lookup other :=
      fun other listed => lookup_erase_ne fun equal => absent (equal ▸ listed)
    have erased := @ih (others.erase place) distinct free fun other outside => by
      by_cases here : other = place
      · rw [here, lookup_erase, empty]
      · rw [lookup_erase_ne here, same other (by simp [here, outside])]
    rw [total_erase measure place, erased, map_cons, sum_cons, add_assoc,
      add_comm (List.sum _), map_congr_left fun other listed => by rw [kept other listed]]

end

lemma total_measure_congr {measure other : List String → File → M}
    (same : ∀ place contents, files.lookup place = some contents →
      measure place contents = other place contents) :
    total measure files = total other files := by
  rw [total, total]
  congr 1
  apply map_congr_left
  rintro ⟨place, contents⟩ mem
  exact same place contents (mem_lookup_iff.mpr mem)

lemma total_filterFiles (measure : List String → File → M) (keep : List String → Bool) :
    total measure (filterFiles keep files) =
      total (fun place contents => if keep place then measure place contents else 0) files := by
  simp only [total, filterFiles]
  induction files.entries with
  | nil => rfl
  | cons entry _ ih =>
    cases kept : keep entry.1 <;> simp [kept, ih]

lemma lookup_filterFiles (keep : List String → Bool) :
    (filterFiles keep files).lookup place = if keep place then files.lookup place else none := by
  ext contents
  have stored := mem_lookup_iff (s := filterFiles keep files) (a := place) (b := contents)
  have original := mem_lookup_iff (s := files) (a := place) (b := contents)
  rw [Option.mem_def] at stored original
  rw [stored]
  simp only [filterFiles, mem_filter]
  cases keep place <;> simp [original]

/-- A total that ignores some places depends on the others only. -/
lemma total_congr_outside (measure : List String → File → M) (ignored : List String → Bool)
    (zero : ∀ place contents, ignored place = true → measure place contents = 0)
    (same : ∀ place, ignored place = false → files.lookup place = others.lookup place) :
    total measure files = total measure others := by
  have restrict : ∀ stored : AList fun _ : List String => File,
      total measure stored = total measure (filterFiles (fun place => !ignored place) stored) := by
    intro _
    rw [total_filterFiles]
    apply total_measure_congr
    intro place _ _
    cases kept : ignored place <;> simp [zero, kept]
  rw [restrict files, restrict others]
  apply total_congr
  intro place
  rw [lookup_filterFiles, lookup_filterFiles]
  cases kept : ignored place
  · simpa using same place kept
  · rfl

/-! ## What a successful call does -/

variable {truncated : File} {disk after : Disk File} {path source target : String} {contents : File}

private lemma put_ok (stored : disk.put path contents = (.ok (), after)) :
    after = { disk with files := disk.files.insert (resolve path) contents } := by
  unfold put at stored
  dsimp only at stored
  split at stored
  · cases stored
  · split at stored
    · cases stored
    · cases stored
      rfl

lemma after_write (served : serve truncated (.write path contents) disk = (.ok (), after)) :
    after = { disk with files := disk.files.insert (resolve path) contents } :=
  put_ok served

lemma after_createDirAll (served : serve truncated (.createDirAll path) disk = (.ok (), after)) :
    after.files = disk.files ∧ disk.dirs ⊆ after.dirs ∧ resolve path ∈ after.dirs := by
  change disk.createDirAll path = _ at served
  unfold createDirAll at served
  dsimp only at served
  split at served
  · cases served
  · cases served
    exact ⟨rfl, subset_append_left _ _, mem_append_right _ (by simp [mem_inits])⟩

lemma after_copy (served : serve truncated (.copy source target) disk = (.ok (), after))
    (apart : resolve source ≠ resolve target) :
    ∃ contents, disk.fileAt source = some contents ∧
      after = { disk with files := disk.files.insert (resolve target) contents } := by
  rw [serve, copy] at served
  split at served
  · cases served
  · rename_i contents found
    rw [if_neg apart] at served
    exact ⟨contents, found, put_ok served⟩

lemma after_rename (served : serve truncated (.rename source target) disk = (.ok (), after))
    (apart : resolve source ≠ resolve target) :
    ∃ contents, disk.fileAt source = some contents ∧
      after = { disk with files :=
        (disk.files.insert (resolve target) contents).erase (resolve source) } := by
  rw [serve, rename] at served
  split at served
  · cases served
  · rename_i contents found
    rw [if_neg apart] at served
    cases stored : disk.put target contents with
    | mk result =>
      rw [stored] at served
      cases result with
      | error => cases served
      | ok =>
        cases served
        rw [put_ok stored]
        exact ⟨contents, found, rfl⟩

lemma after_removeFile (truncated : File) (disk : Disk File) (path : String) :
    (serve truncated (.removeFile path) disk).2.dirs = disk.dirs ∧
    ∀ place, (serve truncated (.removeFile path) disk).2.files.lookup place =
      if place = resolve path then none else disk.files.lookup place := by
  rw [serve, removeFile]
  cases found : disk.fileAt path with
  | none =>
    refine ⟨rfl, fun place => ?_⟩
    by_cases same : place = resolve path
    · rw [if_pos same, same]
      exact found
    · rw [if_neg same]
  | some =>
    refine ⟨rfl, fun place => ?_⟩
    by_cases same : place = resolve path
    · rw [if_pos same, same]
      exact lookup_erase _ _
    · rw [if_neg same]
      exact lookup_erase_ne same

lemma after_removeDirAll (present : resolve path ∈ disk.dirs) :
    (serve truncated (.removeDirAll path) disk).2.files =
      filterFiles (fun place => !below (resolve path) place) disk.files := by
  have isDir : disk.isDir (resolve path) = true := by
    simp [isDir, present]
  simp [serve, removeDirAll, isDir]

end Parqonaut.Rust.Disk
