import Parqonaut.Orchestrator.AcceptedPlans
import Parqonaut.Repair.RetryableRepair

/-!
# The location policy of a server

`StoragePolicy` of `policy.rs`, and the use case `repair` of `repair.rs` for a local source and a
local output. Canonical paths come from the operating system, which has none
for a path that does not exist.
-/

namespace Parqonaut.App

open Effects Rust Repair Storage Fallible Str List

variable {File Schema Batch : Type}

/-- `canonicalize_utf8` on a disk. -/
structure Canonicalize (disk : Disk File) where
  path : String → Except String String
  absent : ∀ {text}, ¬disk.Present text → ∃ message, path text = .error message

inductive ApplicationError where
  | invalidRequest (message : String)
  | locationNotAllowed (message : String)

structure StoragePolicy where
  allowUnrestrictedLocal : Bool
  allowedLocalRoots : List String
  allowedS3Buckets : List String
  allowedS3Prefixes : List String

variable (canonicalize : String → Except String String) (policy : StoragePolicy)

def StoragePolicy.validateLocalPath (path : String) : Except ApplicationError Unit :=
  if policy.allowUnrestrictedLocal then .ok ()
  else if policy.allowedLocalRoots.isEmpty then
    .error (.locationNotAllowed
      "local filesystem access is disabled; configure server.storage.allowed_local_roots")
  else do
    let abs ← (canonicalize path).mapError .invalidRequest
    if policy.allowedLocalRoots.any fun root =>
        Path.startsWith abs ((canonicalize root).toOption.getD root) then
      .ok ()
    else
      .error (.locationNotAllowed
        ("path `" ++ path ++ "` is outside configured allowed_local_roots"))

section

variable (location : S3Location)

def StoragePolicy.passesBuckets : Bool :=
  policy.allowedS3Buckets.isEmpty || policy.allowedS3Buckets.contains location.bucket

/-- Test of an entry `bucket/prefix`, or of a bucket alone. -/
def entryAllows (entry : String) : Bool :=
  match splitOnce entry '/' with
  | some (bucket, below) => location.bucket = bucket &&
      (below = "" || startsWith location.keyPrefix (trimEndMatches '/' below))
  | none => location.bucket = entry

def StoragePolicy.validateS3 : Except ApplicationError Unit :=
  if !policy.passesBuckets location then
    .error (.locationNotAllowed ("s3 bucket `" ++ location.bucket ++ "` is not allowed"))
  else if policy.allowedS3Prefixes.isEmpty || policy.allowedS3Prefixes.any
      (entryAllows location) then
    .ok ()
  else
    .error (.locationNotAllowed ("s3 location `" ++ (DatasetLocation.s3 location).displayUri ++
      "` is outside configured allowed_s3_prefixes"))

/-- The location is in the bucket of an entry, and the prefix relates to its key. -/
def InEntry (related : String → String → Prop) (entry : String) : Prop :=
  match splitOnce entry '/' with
  | some (bucket, below) => location.bucket = bucket ∧ (trimEndMatches '/' below = "" ∨
      related (trimEndMatches '/' below) location.keyPrefix)
  | none => location.bucket = entry

/-- The key has all components of the prefix first. -/
def IsAbove (text key : String) : Prop := split text '/' <+: split key '/'

/-- The key starts with the prefix, which ends there or before a slash. -/
def EndsAtSlash (text key : String) : Prop := key = text ∨ startsWith key (text ++ "/") = true

lemma isAbove_iff {text key : String} : IsAbove text key ↔ EndsAtSlash text key := by
  rw [IsAbove, EndsAtSlash, startsWith_iff]
  constructor
  · rintro ⟨more, equal⟩
    cases more with
    | nil => exact .inl (split_injective (equal.symm.trans (append_nil _)))
    | cons piece rest =>
      have free : ∀ name ∈ piece :: rest, '/' ∉ name.toList := fun name named =>
        free_of_mem_split (equal ▸ mem_append_right _ named)
      refine .inr ⟨"/".intercalate (piece :: rest), split_injective (c := '/') ?_⟩
      dsimp only
      rw [split_append_cons rfl, split_intercalate free (cons_ne_nil _ _), equal]
  · rintro (rfl | ⟨_, rfl⟩)
    · exact prefix_rfl
    · exact ⟨_, (split_append_cons rfl).symm⟩

variable {location policy}

lemma entryAllows_of_inEntry {entry : String} (within : InEntry location EndsAtSlash entry) :
    entryAllows location entry = true := by
  rw [InEntry] at within
  rw [entryAllows]
  split at within
  · obtain ⟨same, empty | ends | longer⟩ := within
    · simp [same, empty, startsWith]
    · simp [same, ends, startsWith]
    · obtain ⟨_, key⟩ := startsWith_iff.mp longer
      simp [same, key, startsWith]
  · simpa using within

namespace Reference

def dataOnly : StoragePolicy := ⟨false, [], [], ["b/data"]⟩

end Reference

end

/-- Why a repair fails: for the policy, or in the scan and the executor. -/
inductive RepairFailure where
  | policy (error : ApplicationError)
  | executor (error : RepairError)

/-- The failures of the policy check and of the executor's look at the output. -/
def RepairFailure.AtChecks (output : String) : RepairFailure → Prop
  | .policy _ => True
  | .executor error => error = .outputExists output

def validated : Except ApplicationError Unit →
    Fallible (FsRequest File) FsRequest.Answer RepairFailure Unit
  | .ok _ => return ()
  | .error error => throw (.policy error)

variable [DecidableEq Schema] (tools : Toolkit File Schema Batch)
  (encode : ExecutionManifest → File) (executor : RepairExecutor) (plan : RepairPlan)
  (source output executionId : String)

def repair : Fallible (FsRequest File) FsRequest.Answer RepairFailure ExecutionReport := do
  validated (policy.validateLocalPath canonicalize source)
  validated (policy.validateLocalPath canonicalize output)
  mapErr .executor do
    let scan ← scanDirectory tools source
    execute tools encode executor plan output scan executionId

/-- No run of a repair fails for the policy, or because the output exists. -/
def PassesChecks (truncated : File) (disk : Disk File) : Prop :=
  ∀ failure final, Fails (Disk.service truncated)
    (repair canonicalize policy tools encode executor plan source output executionId) disk failure
    final → ¬failure.AtChecks output

variable {policy tools encode executor plan source output executionId}
  {disk : Disk File} {truncated : File}

lemma not_passesChecks (canonicalize : Canonicalize disk)
    (restricted : policy.allowUnrestrictedLocal = false) (absent : ¬disk.Present output) :
    ¬PassesChecks canonicalize.path policy tools encode executor plan source output executionId
      truncated disk := by
  intro passes
  obtain ⟨_, missing⟩ := canonicalize.absent absent
  have refused : ∃ error, policy.validateLocalPath canonicalize.path output = .error error := by
    rw [StoragePolicy.validateLocalPath, restricted, if_neg Bool.false_ne_true, missing]
    split <;> exact ⟨_, rfl⟩
  obtain ⟨error, refused⟩ := refused
  cases accepted : policy.validateLocalPath canonicalize.path source with
  | error early =>
    refine passes (.policy early) disk ?_ trivial
    rw [repair, accepted]
    exact fails_bind.mpr (.inl (fails_throw.mpr ⟨rfl, rfl⟩))
  | ok =>
    refine passes (.policy error) disk ?_ trivial
    rw [repair, accepted, refused, validated, pure_bind]
    exact fails_bind.mpr (.inl (fails_throw.mpr ⟨rfl, rfl⟩))

/-- An output that does not exist passes the checks exactly if the policy does not restrict
local paths. -/
theorem fresh_output_passes_iff (canonicalize : Canonicalize disk) (absent : ¬disk.Present output) :
    PassesChecks canonicalize.path policy tools encode executor plan source output executionId
      truncated disk ↔ policy.allowUnrestrictedLocal = true := by
  constructor
  · intro passes
    by_contra restricted
    exact not_passesChecks canonicalize (Bool.eq_false_iff.mpr restricted) absent passes
  · intro unrestricted _ _ fails
    have accepts (path : String) : policy.validateLocalPath canonicalize.path path = .ok () := by
      rw [StoragePolicy.validateLocalPath, if_pos unrestricted]
    rw [repair, accepts, accepts, validated, pure_bind, pure_bind] at fails
    obtain ⟨error, raised, rfl⟩ := fails_mapErr.mp fails
    rintro rfl
    rcases fails_bind.mp raised with scans | ⟨_, _, scanned, executes⟩
    · exact (scanDirectory_raises source).of_fails scans output rfl
    · obtain ⟨-, rfl⟩ := scanDirectory_returns scanned
      cases version : plan.validateVersion with
      | ok => exact absent ((turnedAway_iff version).mp ⟨_, _, executes, rfl, rfl⟩)
      | error =>
        -- the plan is refused before the output is looked at
        rw [execute, executeRecorded_eq, checkExecution, version] at executes
        cases (fails_throw.mp executes).1
        rw [RepairPlan.validateVersion] at version
        split at version <;> cases version

namespace Reference

open Repair.Reference

def realpath (disk : Disk File) : Canonicalize disk where
  path := fun text => if disk.Present text then .ok text else .error "No such file or directory"
  absent := fun absent => ⟨_, if_neg absent⟩

/-- The repair of `/d` to `/o`. -/
def Passes (policy : StoragePolicy) : Prop :=
  PassesChecks (realpath (diskOf [])).path policy Repair.Reference.tools encodeManifest verifying
    (planOf "" []) "/d" "/o" "x" (.contents "") (diskOf [])

def belowRoot : StoragePolicy := ⟨false, ["/"], [], []⟩

theorem output_below_root_refused :
    StoragePolicy.validateLocalPath (realpath (diskOf [])).path belowRoot "/d" = .ok () ∧
    ¬(diskOf []).Present "/o" ∧ pathsOverlap "/d" "/o" = false ∧ ¬Passes belowRoot :=
  ⟨rfl, by decide, rfl, not_passesChecks (realpath _) rfl (by decide)⟩

theorem unrestricted_output_passes : Passes ⟨true, [], [], []⟩ :=
  (fresh_output_passes_iff (realpath (diskOf [])) (by decide)).mpr rfl

end Reference

end Parqonaut.App
