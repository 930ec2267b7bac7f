import Mathlib.Data.List.Destutter
import Parqonaut.Storage.Location

/-!
# Publication sessions

`RemotePublicationSession` of `publication.rs`: staged upload under an immutable
version prefix, manifest, commit marker, and promotion to `CURRENT`.
-/

namespace Parqonaut.Storage

open Effects Rust
open Method (ofFallible)

variable {Bytes : Type}

/-! ## Remote writer lock

`RemotePublicationLock` of `locking.rs`. The lock object records the owning run;
the same run may reclaim a lock that it left behind. -/

/-- Exclusive remote writer lock for a dataset publication run. -/
structure RemotePublicationLock where
  lockObject : ObjectLocation
  record : WriterLockRecord
  released : Bool
  deriving DecidableEq

namespace RemotePublicationLock

/-- Conditional create of the lock object. -/
def createLock (serde : SerdeJson Bytes) (lockObject : ObjectLocation)
    (record : WriterLockRecord) : Request Bytes :=
  .conditionalCreate lockObject .mustNotExist (serde.lock.toVec record)

def reclaimOrReject (serde : SerdeJson Bytes) (lockObject : ObjectLocation)
    (record : WriterLockRecord) : BackendM Bytes RemotePublicationLock := do
  let existing ← readJsonObject serde.lock lockObject
  if existing.runId ≠ record.runId then
    throw (.lockHeld existing.runId)
  else
    let _ ← backendCall (.deleteOwnedObject lockObject)
    let _ ← backendCall (createLock serde lockObject record)
    return ⟨lockObject, record, false⟩

/-- Acquire the dataset writer lock for `runId`. -/
def acquire (serde : SerdeJson Bytes) (capabilities : StorageCapabilities)
    (dataset : DatasetLocation) (runId : String) :
    BackendM Bytes RemotePublicationLock := do
  if !capabilities.conditionalCreate then
    throw (.unsupported "backend lacks conditional_create for writer locks")
  else
    let record : WriterLockRecord := ⟨runId, runId⟩
    let lockObject ← locateObject dataset WRITER_LOCK_KEY
    match ← Fallible.request (createLock serde lockObject record) with
    | .ok _ => return ⟨lockObject, record, false⟩
    | .error (.conflict _) => reclaimOrReject serde lockObject record
    | .error error => throw (.storage error)

def versionId (lock : RemotePublicationLock) : String := lock.record.runId

/-- Release the writer lock. -/
def release (lock : RemotePublicationLock) : BackendM Bytes Unit := do
  if lock.released then
    return ()
  else
    backendCall (.deleteOwnedObject lock.lockObject)

end RemotePublicationLock

/-! ## Reading the publication state -/

/-- `true` only when the commit marker object exists. -/
def isVersionCommitted (dataset : DatasetLocation) (versionId : String) :
    BackendM Bytes Bool := do
  let object ← locateObject dataset (versionCommitKey versionId)
  match ← Fallible.request (.head object) with
  | .ok _ => return true
  | .error (.notFound _) => return false
  | .error error => throw (.storage error)

variable (serde : SerdeJson Bytes)

def readCurrentVersion (dataset : DatasetLocation) : BackendM Bytes (Option String) := do
  let object ← locateObject dataset CURRENT_KEY
  match ← Fallible.attempt (readJsonObject serde.current object) with
  | .ok pointer => return some pointer.versionId
  | .error (.storage (.notFound _)) => return none
  | .error error => throw error

variable (dataset : DatasetLocation) (versionId : String)

/-- Observed publication state for recovery and display. Never reports
`committed` without the marker. -/
def observedState : BackendM Bytes (Option PublicationState) := do
  if ← isVersionCommitted dataset versionId then
    let current ← readCurrentVersion serde dataset
    if current = some versionId then return some .current
    else return some .committed
  else
    let stateObject ← locateObject dataset (versionStateKey versionId)
    match ← Fallible.attempt (readJsonObject serde.state stateObject) with
    | .ok record =>
      if PublicationState.committed.ordinal ≤ record.state.ordinal then
        return some .manifestWritten
      else
        return some record.state
    | .error (.storage (.notFound _)) => return none
    | .error error => throw error

def loadRecoveredState : BackendM Bytes (Option PublicationStateRecord) := do
  if ← isVersionCommitted dataset versionId then
    let current ← readCurrentVersion serde dataset
    let state :=
      if current = some versionId then PublicationState.current
      else PublicationState.committed
    return some ⟨PUBLICATION_CONTRACT_VERSION, versionId, versionId, state⟩
  else
    let stateObject ← locateObject dataset (versionStateKey versionId)
    match ← Fallible.attempt (readJsonObject serde.state stateObject) with
    | .ok record => return some record
    | .error (.storage (.notFound _)) => return none
    | .error error => throw error

/-- Head an object and replace what is there, or create it when it is absent. -/
def replaceOrCreate (object : ObjectLocation) (payload : Bytes) :
    BackendM Bytes ObjectMetadata := do
  match ← Fallible.request (.head object) with
  | .ok head => backendCall (.conditionalReplace object (.matching head) payload)
  | .error (.notFound _) => backendCall (.conditionalCreate object .mustNotExist payload)
  | .error error => throw (.storage error)

/-! ## Sessions -/

/-- Active remote publication session for one run and version. -/
structure RemotePublicationSession where
  dataset : DatasetLocation
  versionId : String
  runId : String
  state : PublicationState
  lock : Option RemotePublicationLock

/-- A method of a publication session. -/
abbrev SessionM (Bytes : Type) : Type → Type :=
  Method (Request Bytes) Request.Answer RemotePublicationSession PublicationError

namespace RemotePublicationSession

def versionObjectKey (session : RemotePublicationSession) (relative : String) : String :=
  versionDataKey session.versionId relative

def persistState (state : PublicationState) : SessionM Bytes Unit := do
  let session ← get
  let record : PublicationStateRecord :=
    ⟨PUBLICATION_CONTRACT_VERSION, session.versionId, session.runId, state⟩
  let object ← ofFallible (locateObject session.dataset (versionStateKey session.versionId))
  let _ ← ofFallible (replaceOrCreate object (serde.state.toVec record))
  set { session with state := state }

/-- State in which `begin` opens the session. -/
def stateAtBegin : Option PublicationStateRecord → PublicationState
  | some record => record.state
  | none => .preparing

/-- Begin or resume a publication for `runId`, acquiring the writer lock. -/
def begin (capabilities : StorageCapabilities) (dataset : DatasetLocation) (runId : String) :
    BackendM Bytes RemotePublicationSession := do
  let lock ← RemotePublicationLock.acquire serde capabilities dataset runId
  let versionId := lock.versionId
  let recovered ← loadRecoveredState serde dataset versionId
  let session : RemotePublicationSession :=
    ⟨dataset, versionId, runId, stateAtBegin recovered, some lock⟩
  if session.state = .preparing then
    ExceptT.mk do
      let (result, session) ← (persistState serde .preparing).exec session
      return result.map fun _ => session
  else
    return session

/-- Advance to `next` after validating the state machine. -/
def advanceTo (next : PublicationState) : SessionM Bytes Unit := do
  let session ← get
  if session.state = next then
    return ()
  else if !PublicationState.allowsTransition session.state next then
    throw (.invalidTransition session.state next)
  else
    persistState serde next

/-- State check of `putVersionObject`. -/
def enterUploading : SessionM Bytes Unit := do
  let session ← get
  if session.state.ordinal < PublicationState.preparing.ordinal then
    throw (.incomplete "session not initialized")
  else if session.state = .preparing then
    advanceTo serde .uploading
  else if PublicationState.uploading.ordinal < session.state.ordinal then
    throw (.invalidTransition session.state .uploading)
  else
    return ()

/-- Create an object under the version prefix, moving to `uploading` when needed. -/
def putVersionObject (relative : String) (data : Bytes) : SessionM Bytes ObjectMetadata := do
  enterUploading serde
  let session ← get
  let object ← ofFallible (locateObject session.dataset (session.versionObjectKey relative))
  ofFallible (backendCall (.conditionalCreate object .mustNotExist data))

def markUploaded : SessionM Bytes Unit :=
  advanceTo serde .uploaded

def markVerified : SessionM Bytes Unit :=
  advanceTo serde .verified

/-- Write the manifest (requires `verified`). -/
def writeManifest (manifest : PublicationManifest) : SessionM Bytes Unit := do
  let session ← get
  if session.state ≠ .verified then
    throw (.invalidTransition session.state .manifestWritten)
  else
    let object ← ofFallible (locateObject session.dataset (versionManifestKey session.versionId))
    let _ ← ofFallible
      (backendCall (.conditionalCreate object .mustNotExist (serde.manifest.toVec manifest)))
    persistState serde .manifestWritten

/-- Write the commit marker last. Returns `false` if already committed. -/
def commit : SessionM Bytes Bool := do
  let session ← get
  if session.state ≠ .manifestWritten then
    throw (.invalidTransition session.state .committed)
  else if ← ofFallible (isVersionCommitted session.dataset session.versionId) then
    set { session with state := PublicationState.committed }
    return false
  else
    let marker : CommitMarker := ⟨session.versionId, session.runId⟩
    let object ← ofFallible (locateObject session.dataset (versionCommitKey session.versionId))
    let _ ← ofFallible
      (backendCall (.conditionalCreate object .mustNotExist (serde.marker.toVec marker)))
    persistState serde .committed
    return true

/-- Update `.parqonaut/CURRENT` after commit. -/
def promoteCurrent : SessionM Bytes Unit := do
  let session ← get
  if ← ofFallible (isVersionCommitted session.dataset session.versionId) then
    let pointer : CurrentPointer := ⟨session.versionId⟩
    let object ← ofFallible (locateObject session.dataset CURRENT_KEY)
    let _ ← ofFallible (replaceOrCreate object (serde.current.toVec pointer))
    persistState serde .current
  else
    throw (.incomplete "cannot promote uncommitted version to CURRENT")

/-- Take the lock out of the session and release it. -/
def releaseLock : SessionM Bytes Unit := do
  let session ← get
  match session.lock with
  | some lock =>
    set { session with lock := none }
    ofFallible lock.release
  | none => return ()

/-- Release the writer lock without committing. -/
def abandon : SessionM Bytes Unit :=
  releaseLock

/-- First step of `finish`: commit when the manifest is written. -/
def commitWritten : SessionM Bytes Unit := do
  let session ← get
  if session.state = .manifestWritten then
    let _ ← commit serde
    return ()
  else
    return ()

/-- Second step of `finish`. -/
def promoteWhen (promote : Bool) : SessionM Bytes Unit :=
  if promote then promoteCurrent serde else return ()

/-- Commit when the manifest is written, promote `CURRENT` on request, release the
lock. -/
def finish (promote : Bool) : SessionM Bytes Unit := do
  commitWritten serde
  promoteWhen serde promote
  releaseLock

end RemotePublicationSession

/-!
# Remote dataset inventory

`list_remote_inventory` of `inventory.rs` in object storage: list the objects under the prefix,
drop the paths that the tool owns, add the data objects of the published version when no parquet
object is left, and sort by key. The page loop is bounded; `none` says that the bound was too
small.
-/

structure RemoteInventory where
  dataset : DatasetLocation
  objects : List ObjectMetadata

/-! ## Keys -/

variable (serde : SerdeJson Bytes) (root : S3Location)

/-- Relative object key within a dataset prefix (no leading slash). -/
def relativeObjectKey : ObjectLocation → Option String
  | .localFile _ => none
  | .s3 bucket key =>
    if root.bucket = bucket then
      let base := Str.trimEndMatches '/' root.keyPrefix
      if base = "" then some (Str.trimStartMatches '/' key)
      else if key = base then some ""
      else Str.stripPrefix key (base ++ "/")
    else
      none

/-- Maps `.parqonaut/versions/{id}/data/{name}` to `{name}`. -/
def stripPublishedDataRelativeKey (relativeKey : String) : Option String := do
  let rest ← Str.stripPrefix relativeKey ".parqonaut/versions/"
  let (_, afterVersion) ← Str.splitOnce rest '/'
  Str.stripPrefix afterVersion "data/"

def logicalInventoryKey (relativeKey : String) : String :=
  (stripPublishedDataRelativeKey relativeKey).getD relativeKey

/-- Relative key for an object within a dataset, with logical keys for published
data. -/
def datasetObjectRelativeKey (object : ObjectLocation) : Option String :=
  (relativeObjectKey root object).map logicalInventoryKey

/-- A path segment that marks metadata or staging of the tool. -/
def isOwnedSegment (segment : String) : Bool :=
  segment = ".parqonaut" || segment = "_staging" ||
    Str.startsWith segment ".parqonaut-staging-"

/-- `true` when the key is owned metadata or staging and must not appear in the
inventory. -/
def isExcludedInventoryPath (relativeKey : String) : Bool :=
  let key := Str.trimStartMatches '/' relativeKey
  key = "" || Str.endsWith key ".parqonaut.lock" ||
    Str.endsWith key ".parqonaut-manifest.json" || (Str.split key '/').any isOwnedSegment

def objectSortKey : ObjectLocation → String
  | .localFile path => path
  | .s3 _ key => key

/-! ## Listing -/

/-- A fallible sequence of backend calls with storage errors. -/
abbrev StorageM (Bytes : Type) : Type → Type :=
  Fallible (Request Bytes) Request.Answer StorageError

def storageCall (request : Request Bytes) : StorageM Bytes request.Result := do
  match ← Fallible.request request with
  | .ok result => return result
  | .error error => throw error

/-- Page loop: all objects under the dataset, over at most `pages` pages. -/
def listPages (dataset : DatasetLocation) :
    (pages : Nat) → (continuation : Option String) → StorageM Bytes (Option (List ObjectMetadata))
  | 0, _ => return none
  | pages + 1, continuation => do
      let page ← storageCall (.list dataset ⟨true, none⟩ continuation)
      if !page.truncated then
        return some page.objects
      else
        let rest ← listPages dataset pages page.continuationToken
        return rest.map (page.objects ++ ·)

/-- Text before the data objects of a version. -/
def dataPrefix (versionId : String) : String :=
  ".parqonaut/versions/" ++ versionId ++ "/data/"

/-- A parquet data object of the version `versionId`, as the inventory selects it. -/
def isPublishedObject (versionId : String) (object : ObjectMetadata) : Bool :=
  match relativeObjectKey root object.location with
  | none => false
  | some relative =>
    match Str.stripPrefix relative (dataPrefix versionId) with
    | none => false
    | some logical =>
      !isExcludedInventoryPath logical && Str.endsWith logical ".parquet"

def publishedDataInventory (rawObjects : List ObjectMetadata) :
    StorageM Bytes (List ObjectMetadata) := do
  match ← Fallible.mapErr (fun error => .other error.display)
      (readCurrentVersion serde (.s3 root)) with
  | none => return []
  | some versionId =>
    if ← Fallible.mapErr (fun error => .other error.display)
        (isVersionCommitted (.s3 root) versionId) then
      return rawObjects.filter (isPublishedObject root versionId)
    else
      return []

/-- Objects that the exclusion filter keeps. -/
def retained (object : ObjectMetadata) : Bool :=
  match datasetObjectRelativeKey root object.location with
  | some key => !isExcludedInventoryPath key
  | none => false

def hasParquetKey (object : ObjectMetadata) : Bool :=
  match datasetObjectRelativeKey root object.location with
  | some key => Str.endsWith key ".parquet"
  | none => false

/-- Add the published data when nothing parquet was kept. A failure to read the
published version is dropped. -/
def withPublished (rawObjects objects : List ObjectMetadata) :
    StorageM Bytes (List ObjectMetadata) := do
  if objects.any (hasParquetKey root) then
    return objects
  else
    match ← Fallible.attempt (publishedDataInventory serde root rawObjects) with
    | .ok published => return objects ++ published
    | .error _ => return objects

/-- Sort by key and drop neighbours with equal keys. -/
def sortedByKey (objects : List ObjectMetadata) : List ObjectMetadata :=
  (objects.mergeSort fun a b =>
      decide (objectSortKey a.location ≤ objectSortKey b.location)).destutter
    fun a b => objectSortKey a.location ≠ objectSortKey b.location

/-- Recursively list a dataset and return a sorted, de-duplicated inventory. -/
def listRemoteInventory (pages : Nat) (root : S3Location) :
    StorageM Bytes (Option RemoteInventory) := do
  match ← listPages (.s3 root) pages none with
  | none => return none
  | some rawObjects =>
    let objects ← withPublished serde root rawObjects (rawObjects.filter (retained root))
    return some ⟨.s3 root, sortedByKey objects⟩

end Parqonaut.Storage

/-!
## A reference store

A store whose payloads are the records themselves, so that the model can be evaluated.
-/

namespace Parqonaut.Storage.Reference

/-- A payload: a record under `.parqonaut/` or the contents of a data object. -/
inductive Payload where
  | lock (record : WriterLockRecord)
  | state (record : PublicationStateRecord)
  | manifest (manifest : PublicationManifest)
  | marker (marker : CommitMarker)
  | current (pointer : CurrentPointer)
  | contents (text : String)
  deriving DecidableEq

def serde : SerdeJson Payload where
  lock :=
    { toVec := .lock
      fromSlice := fun payload => match payload with
        | .lock record => .ok record
        | _ => .error "expected a lock record"
      fromSlice_toVec := fun _ => rfl }
  state :=
    { toVec := .state
      fromSlice := fun payload => match payload with
        | .state record => .ok record
        | _ => .error "expected a state record"
      fromSlice_toVec := fun _ => rfl }
  manifest :=
    { toVec := .manifest
      fromSlice := fun payload => match payload with
        | .manifest manifest => .ok manifest
        | _ => .error "expected a manifest"
      fromSlice_toVec := fun _ => rfl }
  marker :=
    { toVec := .marker
      fromSlice := fun payload => match payload with
        | .marker marker => .ok marker
        | _ => .error "expected a commit marker"
      fromSlice_toVec := fun _ => rfl }
  current :=
    { toVec := .current
      fromSlice := fun payload => match payload with
        | .current pointer => .ok pointer
        | _ => .error "expected a current pointer"
      fromSlice_toVec := fun _ => rfl }

/-- Entity tags are the count of accepted writes, so that they never repeat. -/
def s3 : S3Service Payload where
  size := fun payload => match payload with
    | .contents text => text.length
    | _ => 0
  etag := fun writes _ => some (toString writes)
  versionId := fun _ _ => none
  mismatchText := "PreconditionFailed"
  page := fun _ _ _ _ => ⟨[], false, none⟩

def location : S3Location := ⟨"b", ""⟩

def empty : Store Payload := ⟨fun _ => none, 0⟩

end Parqonaut.Storage.Reference
