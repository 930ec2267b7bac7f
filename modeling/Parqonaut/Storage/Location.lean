import Parqonaut.Effects.Program
import Parqonaut.Rust.Path

/-!
# Dataset and object locations

Locations of datasets and objects, and the object at a key relative to a dataset (`location.rs`,
`error.rs`, and `object_at` of `publication.rs`).
-/

namespace Parqonaut.Storage

open Rust

/-- Failure reported by a storage backend. -/
inductive StorageError where
  | notFound (location : String)
  | permissionDenied (location : String)
  | authentication
  | conflict (message : String)
  | preconditionFailed (message : String)
  | transient (message : String)
  | unavailable (message : String)
  | invalidLocation (message : String)
  | unsupportedCapability (capability : String)
  | io (message : String)
  | other (message : String)
  deriving DecidableEq

namespace StorageError

/-- Errors that say that a call did not go through; the others are the store's answer about the
object or the request. -/
def isFailure : StorageError → Bool
  | .permissionDenied _ | .authentication | .transient _ | .unavailable _
  | .io _ | .other _ => true
  | .notFound _ | .conflict _ | .preconditionFailed _ | .invalidLocation _
  | .unsupportedCapability _ => false

def display : StorageError → String
  | .notFound location => "object not found: " ++ location
  | .permissionDenied location => "permission denied: " ++ location
  | .authentication => "authentication failed"
  | .conflict message => "conflict: " ++ message
  | .preconditionFailed message => "precondition failed: " ++ message
  | .transient message => "transient storage error: " ++ message
  | .unavailable message => "storage unavailable: " ++ message
  | .invalidLocation message => "invalid location: " ++ message
  | .unsupportedCapability capability => "unsupported capability: " ++ capability
  | .io message => "io error: " ++ message
  | .other message => "storage error: " ++ message

end StorageError

structure LocalLocation where
  path : String
  deriving DecidableEq

/-- A bucket and the object key prefix of a dataset; the empty prefix is the bucket
root. -/
structure S3Location where
  bucket : String
  keyPrefix : String
  deriving DecidableEq

/-- A dataset: a local directory or an object-store prefix. -/
inductive DatasetLocation where
  | localDir (location : LocalLocation)
  | s3 (location : S3Location)
  deriving DecidableEq

/-- A single object within a backend. -/
inductive ObjectLocation where
  | localFile (path : String)
  | s3 (bucket key : String)
  deriving DecidableEq

namespace S3Location

def displayUri (location : S3Location) : String :=
  if location.keyPrefix = "" then "s3://" ++ location.bucket ++ "/"
  else "s3://" ++ location.bucket ++ "/" ++ location.keyPrefix

def objectKey (location : S3Location) (relative : String) : Except StorageError String :=
  let rel := Str.trimStartMatches '/' relative
  if Str.contains rel ".." then
    .error (.invalidLocation "object key must not contain '..'")
  else if location.keyPrefix = "" then .ok rel
  else if rel = "" then .ok location.keyPrefix
  else .ok (Str.trimEndMatches '/' location.keyPrefix ++ "/" ++ rel)

end S3Location

namespace DatasetLocation

def displayUri : DatasetLocation → String
  | .localDir location => "file://" ++ location.path
  | .s3 location => location.displayUri

end DatasetLocation

namespace ObjectLocation

def displayUri : ObjectLocation → String
  | .localFile path => "file://" ++ path
  | .s3 bucket key => "s3://" ++ bucket ++ "/" ++ key

end ObjectLocation

def objectAt (dataset : DatasetLocation) (relative : String) :
    Except StorageError ObjectLocation :=
  match dataset with
  | .localDir location => .ok (.localFile (Path.join location.path relative))
  | .s3 location => do
      let key ← location.objectKey relative
      return .s3 location.bucket key

/-!
# The object store

The part of the `StorageBackend` trait that publication and inventory use, and an S3-compatible
store: a map with atomic conditional create, conditional replace and delete (`backend.rs`,
`conditional.rs`, `metadata.rs`, `s3.rs`).

The payload type is a parameter. The service is free in its entity tags and version ids and in how
it splits a listing into pages.
-/

open Effects

/-- Backend-advertised features used to gate conditional operations. -/
structure StorageCapabilities where
  rangeReads : Bool
  streamReads : Bool
  streamWrites : Bool
  multipartUpload : Bool
  conditionalCreate : Bool
  conditionalReplace : Bool
  serverSideCopy : Bool
  versionIds : Bool

def StorageCapabilities.s3 : StorageCapabilities where
  rangeReads := true
  streamReads := true
  streamWrites := true
  multipartUpload := true
  conditionalCreate := true
  conditionalReplace := true
  serverSideCopy := true
  versionIds := true

structure ObjectMetadata where
  location : ObjectLocation
  size : Nat
  etag : Option String
  versionId : Option String
  deriving DecidableEq

/-- Create an object only if it does not already exist. -/
structure ConditionalCreate where
  ifAbsent : Bool

def ConditionalCreate.mustNotExist : ConditionalCreate := ⟨true⟩

/-- Replace an object only if its current identity matches. -/
structure ConditionalReplace where
  expectedEtag : Option String
  expectedVersionId : Option String

def ConditionalReplace.matching (metadata : ObjectMetadata) : ConditionalReplace :=
  ⟨metadata.etag, metadata.versionId⟩

structure ListOptions where
  recursive : Bool
  maxKeys : Option Nat

/-- Result page from listing. -/
structure ListPage where
  objects : List ObjectMetadata
  truncated : Bool
  continuationToken : Option String

/-- Backend calls made by publication, locking and inventory. -/
inductive Request (Bytes : Type) where
  | list (dataset : DatasetLocation) (options : ListOptions) (continuationToken : Option String)
  | head (object : ObjectLocation)
  | readStream (object : ObjectLocation)
  | conditionalCreate (object : ObjectLocation) (condition : ConditionalCreate) (data : Bytes)
  | conditionalReplace (object : ObjectLocation) (condition : ConditionalReplace) (data : Bytes)
  | deleteOwnedObject (object : ObjectLocation)

/-- What a successful call returns. -/
@[reducible] def Request.Result {Bytes : Type} : Request Bytes → Type
  | .list .. => ListPage
  | .head _ => ObjectMetadata
  | .readStream _ => Bytes
  | .conditionalCreate .. => ObjectMetadata
  | .conditionalReplace .. => ObjectMetadata
  | .deleteOwnedObject _ => Unit

@[reducible] def Request.Answer {Bytes : Type} (request : Request Bytes) : Type :=
  Except StorageError request.Result

structure StoredObject (Bytes : Type) where
  data : Bytes
  etag : Option String
  versionId : Option String

/-- Durable contents of the store. `writes` counts accepted writes; it only feeds the choice of
tags and version ids. -/
structure Store (Bytes : Type) where
  objects : ObjectLocation → Option (StoredObject Bytes)
  writes : Nat

/-- Choices an S3-compatible service makes itself. -/
structure S3Service (Bytes : Type) where
  size : Bytes → Nat
  etag : Nat → Bytes → Option String
  versionId : Nat → Bytes → Option String
  mismatchText : String
  page : Store Bytes → S3Location → ListOptions → Option String → ListPage

variable {Bytes : Type} (s3 : S3Service Bytes) (store : Store Bytes) (location : ObjectLocation)

namespace Store

/-- The object at `location` is present. -/
def Has : Prop :=
  (store.objects location).isSome

instance (store : Store Bytes) (location : ObjectLocation) : Decidable (store.Has location) :=
  inferInstanceAs (Decidable ((store.objects location).isSome = true))

/-- Write `object` at `location`. -/
def put (object : StoredObject Bytes) : Store Bytes where
  objects := fun query => if query = location then some object else store.objects query
  writes := store.writes + 1

/-- Delete the object at `location`, if any. -/
def remove : Store Bytes where
  objects := fun query => if query = location then none else store.objects query
  writes := store.writes

@[simp] lemma put_objects_self (store : Store Bytes) (location : ObjectLocation)
    (object : StoredObject Bytes) :
    (store.put location object).objects location = some object := by
  simp [put]

variable {store : Store Bytes} {location query : ObjectLocation}

lemma put_objects_of_ne {object : StoredObject Bytes} (different : query ≠ location) :
    (store.put location object).objects query = store.objects query := by
  simp [put, different]

@[simp] lemma remove_objects_self (store : Store Bytes) (location : ObjectLocation) :
    (store.remove location).objects location = none := by
  simp [remove]

lemma remove_objects_of_ne (different : query ≠ location) :
    (store.remove location).objects query = store.objects query := by
  simp [remove, different]

end Store

namespace S3Service

def metadata (object : StoredObject Bytes) : ObjectMetadata where
  location := location
  size := s3.size object.data
  etag := object.etag
  versionId := object.versionId

/-- Object that the service stores for `data` in the current state. -/
def stored (data : Bytes) : StoredObject Bytes where
  data := data
  etag := s3.etag store.writes data
  versionId := s3.versionId store.writes data

/-- An accepted write. -/
def accept (data : Bytes) : Except StorageError ObjectMetadata × Store Bytes :=
  let object := s3.stored store data
  (.ok (s3.metadata location object), store.put location object)

def head : Except StorageError ObjectMetadata :=
  match store.objects location with
  | some object => .ok (s3.metadata location object)
  | none => .error (.notFound location.displayUri)

def readStream : Except StorageError Bytes :=
  match store.objects location with
  | some object => .ok object.data
  | none => .error (.notFound location.displayUri)

def conditionalCreate (condition : ConditionalCreate) (data : Bytes) :
    Except StorageError ObjectMetadata × Store Bytes :=
  if !condition.ifAbsent then
    (.error (.unsupportedCapability "conditional_create without if_absent"), store)
  else
    match store.objects location with
    | some _ =>
      (.error (.conflict ("object already exists: " ++ location.displayUri)), store)
    | none => s3.accept store location data

/-- A put with `If-Match` when the condition has an entity tag, and a plain put otherwise; the
version id is not used. -/
def conditionalReplace (condition : ConditionalReplace) (data : Bytes) :
    Except StorageError ObjectMetadata × Store Bytes :=
  match condition.expectedEtag with
  | none => s3.accept store location data
  | some expected =>
    match store.objects location with
    | none => (.error (.notFound location.displayUri), store)
    | some object =>
      if object.etag = some expected then s3.accept store location data
      else (.error (.preconditionFailed s3.mismatchText), store)

/-- The S3 backend serving one request. Local locations are rejected. -/
def serve : (request : Request Bytes) → Store Bytes → request.Answer × Store Bytes
  | .list (.localDir _) _ _, store =>
    (.error (.invalidLocation "expected S3 dataset, got local"), store)
  | .list (.s3 location) options token, store =>
    (.ok (s3.page store location options token), store)
  | .head (.localFile path), store =>
    (.error (.invalidLocation ("expected S3 object, got file://" ++ path)), store)
  | .head object, store => (s3.head store object, store)
  | .readStream (.localFile path), store =>
    (.error (.invalidLocation ("expected S3 object, got file://" ++ path)), store)
  | .readStream object, store => (readStream store object, store)
  | .conditionalCreate (.localFile path) _ _, store =>
    (.error (.invalidLocation ("expected S3 object, got file://" ++ path)), store)
  | .conditionalCreate object condition data, store =>
    s3.conditionalCreate store object condition data
  | .conditionalReplace (.localFile path) _ _, store =>
    (.error (.invalidLocation ("expected S3 object, got file://" ++ path)), store)
  | .conditionalReplace object condition data, store =>
    s3.conditionalReplace store object condition data
  | .deleteOwnedObject (.localFile path), store =>
    (.error (.invalidLocation ("expected S3 object, got file://" ++ path)), store)
  | .deleteOwnedObject object, store => (.ok (), store.remove object)

/-- Store as a service whose calls may fail without effect. -/
def service : Service (Request Bytes) Request.Answer (Store Bytes) where
  serve := s3.serve
  faulty := fun _ answer => ∃ error : StorageError, error.isFailure ∧ answer = .error error

end S3Service

/-!
# Publication records

The keys, records and errors of transactional publication (`publication.rs`) and of
the writer lock (`locking.rs`), and the reading of JSON objects.

```text
.parqonaut/writer.lock
.parqonaut/CURRENT
.parqonaut/versions/{version_id}/state.json
.parqonaut/versions/{version_id}/manifest.json
.parqonaut/versions/{version_id}/data/{object_key}
.parqonaut/versions/{version_id}/COMMITTED
```

Time stamps of the records are written and never read, and are left out.
-/

def PUBLICATION_CONTRACT_VERSION : Nat := 1

def WRITER_LOCK_KEY : String := ".parqonaut/writer.lock"
def CURRENT_KEY : String := ".parqonaut/CURRENT"
def VERSIONS_PREFIX : String := ".parqonaut/versions"

def STATE_FILE : String := "state.json"
def MANIFEST_FILE : String := "manifest.json"
def COMMITTED_MARKER : String := "COMMITTED"
def DATA_PREFIX : String := "data"

def versionPrefix (versionId : String) : String :=
  VERSIONS_PREFIX ++ "/" ++ versionId

def versionStateKey (versionId : String) : String :=
  versionPrefix versionId ++ "/" ++ STATE_FILE

def versionManifestKey (versionId : String) : String :=
  versionPrefix versionId ++ "/" ++ MANIFEST_FILE

def versionCommitKey (versionId : String) : String :=
  versionPrefix versionId ++ "/" ++ COMMITTED_MARKER

def versionDataKey (versionId relative : String) : String :=
  versionPrefix versionId ++ "/" ++ DATA_PREFIX ++ "/" ++ Str.trimStartMatches '/' relative

/-- Publication lifecycle states. -/
inductive PublicationState where
  | preparing
  | uploading
  | uploaded
  | verified
  | manifestWritten
  | committed
  | current
  deriving DecidableEq

namespace PublicationState

def allowsTransition : PublicationState → PublicationState → Bool
  | .preparing, .preparing => true
  | .preparing, .uploading => true
  | .uploading, .uploading => true
  | .uploading, .uploaded => true
  | .uploaded, .verified => true
  | .verified, .manifestWritten => true
  | .manifestWritten, .committed => true
  | .committed, .current => true
  | _, _ => false

def ordinal : PublicationState → Nat
  | .preparing => 0
  | .uploading => 1
  | .uploaded => 2
  | .verified => 3
  | .manifestWritten => 4
  | .committed => 5
  | .current => 6

/-- Derived debug form. -/
def debug : PublicationState → String
  | .preparing => "Preparing"
  | .uploading => "Uploading"
  | .uploaded => "Uploaded"
  | .verified => "Verified"
  | .manifestWritten => "ManifestWritten"
  | .committed => "Committed"
  | .current => "Current"

end PublicationState

structure PublicationStateRecord where
  parqonautPublicationVersion : Nat
  versionId : String
  runId : String
  state : PublicationState
  deriving DecidableEq

structure PublicationObjectRecord where
  key : String
  size : Nat
  etag : Option String
  versionId : Option String
  deriving DecidableEq

structure PublicationManifest where
  parqonautPublicationVersion : Nat
  versionId : String
  runId : String
  objects : List PublicationObjectRecord
  deriving DecidableEq

structure CommitMarker where
  versionId : String
  runId : String
  deriving DecidableEq

structure CurrentPointer where
  versionId : String
  deriving DecidableEq

/-- JSON payload stored in the writer lock object. -/
structure WriterLockRecord where
  runId : String
  versionId : String
  deriving DecidableEq

inductive PublicationError where
  | storage (error : StorageError)
  | lockHeld (runId : String)
  | invalidTransition (source target : PublicationState)
  | incomplete (message : String)
  | unsupported (message : String)
  deriving DecidableEq

def PublicationError.display : PublicationError → String
  | .storage error => "storage error: " ++ error.display
  | .lockHeld runId => "writer lock held by run `" ++ runId ++ "`"
  | .invalidTransition source target =>
    "invalid state transition: " ++ source.debug ++ " -> " ++ target.debug
  | .incomplete message => "publication incomplete: " ++ message
  | .unsupported message => "unsupported: " ++ message

/-- Serialisation of one record type, as `serde_json` derives it: what is written
can be read back. -/
structure JsonCodec (Bytes α : Type) where
  toVec : α → Bytes
  fromSlice : Bytes → Except String α
  fromSlice_toVec : ∀ value, fromSlice (toVec value) = .ok value

attribute [simp] JsonCodec.fromSlice_toVec

/-- Serialisers of the records kept under `.parqonaut/`. -/
structure SerdeJson (Bytes : Type) where
  lock : JsonCodec Bytes WriterLockRecord
  state : JsonCodec Bytes PublicationStateRecord
  manifest : JsonCodec Bytes PublicationManifest
  marker : JsonCodec Bytes CommitMarker
  current : JsonCodec Bytes CurrentPointer

/-- A fallible sequence of backend calls. -/
abbrev BackendM (Bytes : Type) : Type → Type :=
  Fallible (Request Bytes) Request.Answer PublicationError

/-- Make a backend call and turn a storage error into a publication error. -/
def backendCall (request : Request Bytes) : BackendM Bytes request.Result := do
  match ← Fallible.request request with
  | .ok result => return result
  | .error error => throw (.storage error)

/-- `object_at` with its error turned into a publication error. -/
def locateObject (dataset : DatasetLocation) (relative : String) :
    BackendM Bytes ObjectLocation :=
  match objectAt dataset relative with
  | .ok object => return object
  | .error error => throw (.storage error)

def readJsonObject {α : Type} (codec : JsonCodec Bytes α) (object : ObjectLocation) :
    BackendM Bytes α := do
  let bytes ← backendCall (.readStream object)
  match codec.fromSlice bytes with
  | .ok value => return value
  | .error message =>
    throw (.storage (.other ("invalid JSON at " ++ object.displayUri ++ ": " ++ message)))

/-!
# The layout of a published dataset

A path names the lock, the pointer, or a file of one version, and different paths address different
objects of the bucket. For this no version id in play may continue another; otherwise a file of
one version can carry the key of another version's.
-/

open Str

/-- A file below the prefix of one version. -/
inductive VersionFile where
  | state
  | manifest
  | commit
  | data (key : String)
  deriving DecidableEq

/-- An object that publication keeps under `.parqonaut/`. -/
inductive PublicationPath where
  | writerLock
  | current
  | version (versionId : String) (file : VersionFile)
  deriving DecidableEq

namespace VersionFile

def name : VersionFile → String
  | .state => STATE_FILE
  | .manifest => MANIFEST_FILE
  | .commit => COMMITTED_MARKER
  | .data key => DATA_PREFIX ++ "/" ++ key

lemma name_inj {left right : VersionFile} (equal : left.name = right.name) : left = right := by
  have chars := congrArg String.toList equal
  cases left <;> cases right <;>
    simp [name, STATE_FILE, MANIFEST_FILE, COMMITTED_MARKER, DATA_PREFIX,
      String.toList_inj] at chars ⊢
  exact chars

/-- The file name contains `..`. -/
def hasDots : VersionFile → Bool
  | .state => false
  | .manifest => false
  | .commit => false
  | .data key => contains key ".."

lemma name_dots (file : VersionFile) : contains file.name ".." = file.hasDots := by
  cases file with
  | state => decide
  | manifest => decide
  | commit => decide
  | data =>
    have base : contains DATA_PREFIX ".." = false := by decide
    rw [name, contains_append_sep (c := '/') rfl (by decide) (by decide), base]
    rfl

end VersionFile

/-- A version id that is a single path segment. -/
def SegmentId (versionId : String) : Prop := '/' ∉ versionId.toList

instance (versionId : String) : Decidable (SegmentId versionId) :=
  inferInstanceAs (Decidable ('/' ∉ versionId.toList))

/-- A family of version ids none of which continues another one's prefix. -/
structure VersionIds where
  Admits : String → Prop
  separated : ∀ {left right : String} {x y : List Char}, Admits left → Admits right →
    left.toList ++ '/' :: x = right.toList ++ '/' :: y → left = right

namespace VersionIds

/-- All ids that are a single path segment. -/
def segments : VersionIds where
  Admits := SegmentId
  separated := fun leftFree rightFree equal =>
    eq_of_toList_eq (append_sep_inj leftFree rightFree equal).1

/-- Id of one run, whatever text it is. -/
def only (runId : String) : VersionIds where
  Admits := fun versionId => versionId = runId
  separated := fun left right _ => left.trans right.symm

end VersionIds

namespace PublicationPath

/-- Key of a path relative to the dataset. -/
def relative : PublicationPath → String
  | .writerLock => WRITER_LOCK_KEY
  | .current => CURRENT_KEY
  | .version versionId file => versionPrefix versionId ++ "/" ++ file.name

/-- Paths whose version id belongs to a family. -/
def Within (ids : VersionIds) : PublicationPath → Prop
  | .writerLock => True
  | .current => True
  | .version versionId _ => ids.Admits versionId

lemma relative_state (versionId : String) :
    versionStateKey versionId = (version versionId .state).relative := rfl

lemma relative_manifest (versionId : String) :
    versionManifestKey versionId = (version versionId .manifest).relative := rfl

lemma relative_commit (versionId : String) :
    versionCommitKey versionId = (version versionId .commit).relative := rfl

lemma relative_data (versionId key : String) : versionDataKey versionId key =
      (version versionId (.data (trimStartMatches '/' key))).relative := by
  apply eq_of_toList_eq
  simp [versionDataKey, relative, VersionFile.name]

/-- Every path lies under `.parqonaut/`. -/
lemma relative_head (path : PublicationPath) : ∃ rest, path.relative.toList = '.' :: rest := by
  cases path with
  | writerLock | current => exact ⟨_, rfl⟩
  | version =>
    simp [relative, versionPrefix, VERSIONS_PREFIX]

/-- A key text contains `..` only through the version id or the data key. -/
lemma relative_dots (versionId : String) (file : VersionFile) :
    contains (version versionId file).relative ".." =
      (contains versionId ".." || file.hasDots) := by
  have separator : "/".toList = ['/'] := rfl
  have pattern : "..".toList ≠ [] := by decide
  have free : '/' ∉ "..".toList := by decide
  have base : contains VERSIONS_PREFIX ".." = false := by decide
  rw [relative, versionPrefix, contains_append_sep separator pattern free,
    contains_append_sep separator pattern free, base, Bool.false_or, file.name_dots]

lemma relative_inj {ids : VersionIds} {left right : PublicationPath}
    (leftWithin : left.Within ids) (rightWithin : right.Within ids)
    (equal : left.relative = right.relative) :
    left = right := by
  have chars := congrArg String.toList equal
  cases left with
  | writerLock | current =>
    cases right <;> simp [relative, WRITER_LOCK_KEY, CURRENT_KEY, versionPrefix,
      VERSIONS_PREFIX] at chars ⊢
  | version leftId =>
    cases right with
    | writerLock =>
      simp [relative, WRITER_LOCK_KEY, versionPrefix, VERSIONS_PREFIX] at chars
    | current =>
      simp [relative, CURRENT_KEY, versionPrefix, VERSIONS_PREFIX] at chars
    | version rightId =>
      simp only [relative, versionPrefix, VERSIONS_PREFIX, String.toList_append,
        List.append_assoc, List.append_cancel_left_eq] at chars
      have sameId : leftId = rightId := ids.separated leftWithin rightWithin chars
      subst sameId
      simp only [List.append_cancel_left_eq] at chars
      rw [VersionFile.name_inj (eq_of_toList_eq chars)]

end PublicationPath

namespace S3Location

/-- Text before every key of a dataset. -/
def keyBase (location : S3Location) : String :=
  if location.keyPrefix = "" then ""
  else trimEndMatches '/' location.keyPrefix ++ "/"

/-- Object that a path addresses. -/
def locate (location : S3Location) (path : PublicationPath) : ObjectLocation :=
  .s3 location.bucket (location.keyBase ++ path.relative)

/-- Different paths address different objects. -/
lemma locate_inj {ids : VersionIds} {location : S3Location} {left right : PublicationPath}
    (leftWithin : left.Within ids) (rightWithin : right.Within ids)
    (equal : location.locate left = location.locate right) : left = right := by
  injection equal with _ keys
  apply PublicationPath.relative_inj leftWithin rightWithin
  have chars := congrArg String.toList keys
  simp only [String.toList_append, List.append_cancel_left_eq] at chars
  exact eq_of_toList_eq chars

/-- The key of a path is its key text below the dataset, unless that text contains
`..`. -/
lemma objectKey_relative (location : S3Location) (path : PublicationPath) :
    location.objectKey path.relative =
      if contains path.relative ".." then
        .error (.invalidLocation "object key must not contain '..'")
      else .ok (location.keyBase ++ path.relative) := by
  obtain ⟨rest, head⟩ := path.relative_head
  have trimmed : trimStartMatches '/' path.relative = path.relative :=
    trimStartMatches_of_head head (by decide)
  have nonempty : path.relative ≠ "" := by
    intro empty
    rw [empty] at head
    simp at head
  by_cases root : location.keyPrefix = ""
  · simp [objectKey, trimmed, root, keyBase]
  · simp [objectKey, trimmed, root, nonempty, keyBase]

lemma objectAt_relative (location : S3Location) (path : PublicationPath) :
    objectAt (.s3 location) path.relative =
      if contains path.relative ".." then
        .error (.invalidLocation "object key must not contain '..'")
      else .ok (location.locate path) := by
  rw [objectAt, objectKey_relative]
  split <;> rfl

end S3Location

end Parqonaut.Storage
