import Parqonaut.Storage.SessionSafety

/-!
# Fault-free sessions

While no call fails and no other writer interferes, an operation of a session that is called in its
turn returns a value.
-/

namespace Parqonaut.Storage

open Effects Rust Fallible PublicationPath Store PublicationState RemotePublicationLock
open Method (wp_ofFallible exec_get_bind)
open Program (wp_done wp_mono)

variable {Bytes α : Type} {s3 : S3Service Bytes} {store : Store Bytes} {location : S3Location}
  {path : PublicationPath}

/-! ## Rules for the reliable store -/

/-- The program ends in `post` when no call fails. -/
abbrev Ends (s3 : S3Service Bytes) (prog : Program (Request Bytes) Request.Answer α)
    (store : Store Bytes) (post : α → Store Bytes → Prop) : Prop :=
  prog.wp s3.service.reliable (fun _ _ => True) post store

lemma ends_request_bind {ε : Type} (request : Request Bytes)
    {cont : request.Answer → Fallible (Request Bytes) Request.Answer ε α}
    {post : Except ε α → Store Bytes → Prop} :
    Ends s3 (Fallible.request request >>= cont).run store post ↔
      Ends s3 (cont (s3.service.serve request store).1).run
        (s3.service.serve request store).2 post := by
  rw [Ends, wp_request_bind]
  constructor
  · intro holds
    exact (holds _ _ (Service.answers_reliable.mpr rfl)).2
  · intro holds _ _ answers
    have served := Service.answers_reliable.mp answers
    rw [← served] at holds
    exact ⟨trivial, holds⟩

lemma ends_backendCall (request : Request Bytes)
    {post : Except PublicationError request.Result → Store Bytes → Prop} :
    Ends s3 (backendCall request).run store post ↔
      post ((s3.service.serve request store).1.mapError .storage)
        (s3.service.serve request store).2 := by
  rw [backendCall, ends_request_bind]
  cases (s3.service.serve request store).1 with
  | ok | error => exact wp_done

lemma ends_locateObject {post : Except PublicationError ObjectLocation → Store Bytes → Prop}
    (clean : Str.contains path.relative ".." = false)
    (found : post (.ok (location.locate path)) store) :
    Ends s3 (locateObject (.s3 location) path.relative).run store post := by
  rw [Ends, locateObject, location.objectAt_relative path, clean]
  exact wp_done.mpr found

variable {data : Bytes} {post : Except PublicationError ObjectMetadata → Store Bytes → Prop}

lemma ends_create (absent : store.objects (location.locate path) = none)
    (created : ∀ metadata, post (.ok metadata)
      (store.put (location.locate path) (s3.stored store data))) :
    Ends s3 (backendCall
      (.conditionalCreate (location.locate path) .mustNotExist data)).run store post := by
  apply (ends_backendCall (.conditionalCreate _ _ _)).mpr
  rw [serve_create_none absent]
  exact created _

/-- Replacing or creating always goes through. -/
lemma ends_replaceOrCreate (written : ∀ metadata, post (.ok metadata)
      (store.put (location.locate path) (s3.stored store data))) :
    Ends s3 (replaceOrCreate (location.locate path) data).run store post := by
  rw [replaceOrCreate, ends_request_bind]
  cases lookup : store.objects (location.locate path) with
  | none =>
    rw [serve_head_none lookup]
    exact ends_create lookup written
  | some =>
    rw [serve_head_some lookup]
    apply (ends_backendCall (.conditionalReplace _ _ _)).mpr
    rw [serve_replace_matching lookup]
    exact written _

lemma ends_isVersionCommitted {versionId : String}
    {post : Except PublicationError Bool → Store Bytes → Prop}
    (clean : Str.contains versionId ".." = false)
    (checked : post (.ok (decide
      (store.Has (location.locate (.version versionId .commit))))) store) :
    Ends s3 (isVersionCommitted (.s3 location) versionId).run store post := by
  have cleanPath : Str.contains (version versionId .commit).relative ".." = false := by
    rw [relative_dots, clean]
    rfl
  rw [isVersionCommitted, relative_commit, Ends, wp_bind]
  apply ends_locateObject cleanPath
  apply (ends_request_bind (.head _)).mpr
  cases lookup : store.objects (location.locate (.version versionId .commit)) with
  | none =>
    rw [serve_head_none lookup]
    apply wp_done.mpr
    rwa [decide_eq_false (not_has_iff.mpr lookup)] at checked
  | some object =>
    rw [serve_head_some lookup]
    apply wp_done.mpr
    rwa [decide_eq_true (has_iff.mpr ⟨object, lookup⟩)] at checked

/-! ## Stages of a publication -/

/-- A session of a run on a dataset. -/
structure SessionOf (location : S3Location) (runId : String)
    (session : RemotePublicationSession) : Prop where
  dataset : session.dataset = .s3 location
  version : session.versionId = runId
  lockObject : ∀ lock, session.lock = some lock → lock.lockObject = location.locate .writerLock

lemma SessionOf.withState {runId : String} {session : RemotePublicationSession}
    (opened : SessionOf location runId session) (state : PublicationState) :
    SessionOf location runId { session with state := state } :=
  ⟨opened.dataset, opened.version, opened.lockObject⟩

/-- The objects of a run that has come to `state`: the data uploaded so far, and manifest and
marker once they are reached. -/
structure Stage (location : S3Location) (runId : String) (contents : String → Option Bytes)
    (state : PublicationState) (store : Store Bytes) : Prop where
  data : ∀ key, (store.objects (location.locate (.version runId (.data key)))).map
    StoredObject.data = contents key
  manifest : store.Has (location.locate (.version runId .manifest)) ↔
    manifestWritten.ordinal ≤ state.ordinal
  commit : store.Has (location.locate (.version runId .commit)) ↔ committed.ordinal ≤ state.ordinal

section

variable {serde : SerdeJson Bytes} {session : RemotePublicationSession} {runId : String}
  {contents : String → Option Bytes} {state : PublicationState} {object : StoredObject Bytes}

/-- A write at one path of a run leaves the other paths of the run. -/
lemma put_run_of_ne (query : PublicationPath) (pathWithin : path.Within (.only runId))
    (queryWithin : query.Within (.only runId)) (different : query ≠ path) :
    (store.put (location.locate path) object).objects (location.locate query) =
      store.objects (location.locate query) :=
  put_locate_of_ne query pathWithin queryWithin different

lemma put_file_of_ne {file written : VersionFile} (different : file ≠ written) :
    (store.put (location.locate (.version runId written)) object).objects
        (location.locate (.version runId file)) =
      store.objects (location.locate (.version runId file)) := by
  have within : (version runId written).Within (.only runId) := rfl
  exact put_run_of_ne (.version runId file) within rfl (by simpa using different)

lemma Stage.of_agree {after : Store Bytes} (stage : Stage location runId contents state store)
    (agree : ∀ file, file ≠ .state → after.objects (location.locate (.version runId file)) =
      store.objects (location.locate (.version runId file))) :
    Stage location runId contents state after := by
  constructor
  · intro key
    rw [agree (.data key) (by simp)]
    exact stage.data key
  · rw [Has, agree .manifest (by simp)]
    exact stage.manifest
  · rw [Has, agree .commit (by simp)]
    exact stage.commit

lemma Stage.put (stage : Stage location runId contents state store)
    (within : path.Within (.only runId))
    (other : ∀ file, path = .version runId file → file = .state) :
    Stage location runId contents state (store.put (location.locate path) object) := by
  refine stage.of_agree fun file different => ?_
  apply put_run_of_ne (.version runId file) within rfl
  intro same
  exact different (other file same.symm)

lemma Stage.putData (stage : Stage location runId contents state store) (key : String)
    (object : StoredObject Bytes) :
    Stage location runId (Function.update contents key (some object.data)) state
      (store.put (location.locate (.version runId (.data key))) object) := by
  constructor
  · intro query
    by_cases same : query = key
    · subst same
      rw [put_objects_self, Function.update_self]
      rfl
    · rw [put_file_of_ne (by simpa using same), Function.update_of_ne same]
      exact stage.data query
  · rw [Has, put_file_of_ne (by simp)]
    exact stage.manifest
  · rw [Has, put_file_of_ne (by simp)]
    exact stage.commit

lemma Stage.putManifest (stage : Stage location runId contents .verified store)
    (object : StoredObject Bytes) :
    Stage location runId contents .manifestWritten
      (store.put (location.locate (.version runId .manifest)) object) := by
  constructor
  · intro key
    rw [put_file_of_ne (by simp)]
    exact stage.data key
  · simp [has_put]
  · rw [Has, put_file_of_ne (by simp)]
    exact stage.commit.trans (by decide)

lemma Stage.putCommit (stage : Stage location runId contents .manifestWritten store)
    (object : StoredObject Bytes) :
    Stage location runId contents .committed
      (store.put (location.locate (.version runId .commit)) object) := by
  constructor
  · intro key
    rw [put_file_of_ne (by simp)]
    exact stage.data key
  · rw [Has, put_file_of_ne (by simp)]
    exact stage.manifest.trans (by decide)
  · simp [has_put]

lemma Stage.removeLock (stage : Stage location runId contents state store) :
    Stage location runId contents state (store.remove (location.locate .writerLock)) := by
  refine stage.of_agree fun file _ => ?_
  have within : (version runId file).Within (.only runId) := rfl
  exact remove_lock_of_ne within (by simp)

/-- The pointer names a run. -/
def Names (serde : SerdeJson Bytes) (location : S3Location) (runId : String)
    (store : Store Bytes) : Prop :=
  ∃ object, store.objects (location.locate .current) = some object ∧
    serde.current.fromSlice object.data = .ok ⟨runId⟩

lemma Names.removeLock (names : Names serde location runId store) :
    Names serde location runId (store.remove (location.locate .writerLock)) := by
  obtain ⟨object, lookup, decoded⟩ := names
  have within : current.Within (.only runId) := trivial
  refine ⟨object, ?_, decoded⟩
  rw [remove_lock_of_ne within (by simp)]
  exact lookup

lemma Names.putState (names : Names serde location runId store) : Names serde location runId
      (store.put (location.locate (.version runId .state)) object) := by
  obtain ⟨pointer, lookup, decoded⟩ := names
  have within : (version runId .state).Within (.only runId) := rfl
  refine ⟨pointer, ?_, decoded⟩
  rw [put_run_of_ne .current within trivial (by simp)]
  exact lookup

lemma Names.putCurrent : Names serde location runId (store.put (location.locate .current)
      (s3.stored store (serde.current.toVec ⟨runId⟩))) := by
  refine ⟨s3.stored store (serde.current.toVec ⟨runId⟩), put_objects_self _ _ _, ?_⟩
  simp [S3Service.stored]

section

variable (stage : Stage location runId contents state store)
include stage

lemma Stage.advance {next : PublicationState}
    (manifest : manifestWritten.ordinal ≤ state.ordinal ↔ manifestWritten.ordinal ≤ next.ordinal)
    (commit : committed.ordinal ≤ state.ordinal ↔ committed.ordinal ≤ next.ordinal) :
    Stage location runId contents next store :=
  ⟨stage.data, stage.manifest.trans manifest, stage.commit.trans commit⟩

lemma Stage.absent_manifest (early : state.ordinal < manifestWritten.ordinal) :
    store.objects (location.locate (.version runId .manifest)) = none := by
  apply not_has_iff.mp
  rw [stage.manifest]
  omega

lemma Stage.absent_commit (early : state.ordinal < committed.ordinal) :
    store.objects (location.locate (.version runId .commit)) = none := by
  apply not_has_iff.mp
  rw [stage.commit]
  omega

end

/-- What an operation that returns leaves: the session in `reached`, and the objects
of the run in the same stage. -/
structure Reached {ε : Type} (location : S3Location) (runId : String)
    (contents : String → Option Bytes) (reached : PublicationState)
    (outcome : Except ε α × RemotePublicationSession) (store : Store Bytes) : Prop where
  returns : ∃ value, outcome.1 = .ok value
  session : SessionOf location runId outcome.2
  state : outcome.2.state = reached
  stage : Stage location runId contents reached store

variable {ε β : Type}

variable {second : α → SessionMethod Bytes ε β} {first : SessionMethod Bytes ε α}

/-- A method that returns, and what is called after it. -/
lemma ends_bind_of {post : Except ε β × RemotePublicationSession → Store Bytes → Prop}
    (middle : α → RemotePublicationSession → Store Bytes → Prop)
    (holds : Ends s3 (first.exec session) store (fun outcome after =>
      ∃ value, outcome.1 = .ok value ∧ middle value outcome.2 after))
    (rest : ∀ value next after, middle value next after →
      Ends s3 ((second value).exec next) after post) :
    Ends s3 ((first >>= second).exec session) store post := by
  rw [Ends, Method.wp_bind]
  apply wp_mono _ holds
  intro outcome after ended
  rcases outcome with ⟨_, next⟩
  obtain ⟨value, returned, holds⟩ := ended
  dsimp only at returned
  subst returned
  exact rest value next after holds

variable {reached : PublicationState}

lemma ends_bind {post : Except ε β × RemotePublicationSession → Store Bytes → Prop}
    (holds : Ends s3 (first.exec session) store (Reached location runId contents reached))
    (rest : ∀ value next after, SessionOf location runId next → next.state = reached →
      Stage location runId contents reached after →
      Ends s3 ((second value).exec next) after post) :
    Ends s3 ((first >>= second).exec session) store post := by
  apply ends_bind_of (fun _ next after => SessionOf location runId next ∧
    next.state = reached ∧ Stage location runId contents reached after)
  · apply wp_mono _ holds
    intro _ after ended
    obtain ⟨value, returned⟩ := ended.returns
    exact ⟨value, returned, ended.session, ended.state, ended.stage⟩
  · intro value next after ended
    exact rest value next after ended.1 ended.2.1 ended.2.2

variable {ε' : Type}

variable {convert : ε → ε'}

lemma Reached.mapErr {outcome : Except ε α × RemotePublicationSession}
    (ended : Reached location runId contents reached outcome store) :
    Reached location runId contents reached (outcome.1.mapError convert, outcome.2) store := by
  obtain ⟨value, returned⟩ := ended.returns
  refine ⟨⟨value, ?_⟩, ended.session, ended.state, ended.stage⟩
  rw [returned]
  rfl

lemma ends_mapErr {method : SessionMethod Bytes ε α}
    (holds : Ends s3 (method.exec session) store (Reached location runId contents reached)) :
    Ends s3 ((Method.mapErr convert method).exec session) store
      (Reached location runId contents reached) :=
  Method.wp_mapErr.mpr (wp_mono (fun _ _ ended => ended.mapErr) holds)

lemma relative_clean (file : VersionFile) (clean : Str.contains runId ".." = false)
    (plain : file.hasDots = false) :
    Str.contains (version runId file).relative ".." = false := by
  rw [relative_dots, clean, plain]
  rfl

namespace RemotePublicationSession

variable (clean : Str.contains runId ".." = false)
include clean

variable {next : PublicationState}

section

variable (opened : SessionOf location runId session)
include opened

/-- Recording a state leaves the rest of the run and the pointer alone. -/
lemma ends_persistState (stage : Stage location runId contents next store) :
    Ends s3 ((persistState serde next).exec session) store
      (fun outcome after => Reached location runId contents next outcome after ∧
        after.objects (location.locate .current) = store.objects (location.locate .current)) := by
  have within : (version runId .state).Within (.only runId) := rfl
  rw [persistState, exec_get_bind, opened.dataset, opened.version,
    relative_state, Ends, Method.wp_bind, wp_ofFallible]
  apply ends_locateObject (relative_clean .state clean rfl)
  dsimp only
  rw [Method.wp_bind, wp_ofFallible]
  apply ends_replaceOrCreate
  intro _
  dsimp only
  rw [Method.exec_set, wp_done]
  refine ⟨⟨⟨_, rfl⟩, ⟨rfl, rfl, opened.lockObject⟩, rfl, ?_⟩, ?_⟩
  · apply stage.put within
    intro _ same
    cases same
    rfl
  · exact put_run_of_ne .current within trivial (by simp)

lemma ends_advanceTo (allowed : allowsTransition session.state next = true)
    (stage : Stage location runId contents next store) :
    Ends s3 ((advanceTo serde next).exec session) store (Reached location runId contents next) := by
  rw [advanceTo, exec_get_bind]
  by_cases same : session.state = next
  · rw [if_pos same]
    exact wp_done.mpr ⟨⟨_, rfl⟩, opened, same, stage⟩
  · rw [if_neg same, allowed, if_neg (by decide)]
    exact wp_mono (fun _ _ ended => ended.1) (ends_persistState clean opened stage)

lemma ends_enterUploading (early : session.state = .preparing ∨ session.state = .uploading)
    (stage : Stage location runId contents .uploading store) :
    Ends s3 ((enterUploading serde).exec session) store
      (Reached location runId contents .uploading) := by
  rw [enterUploading, exec_get_bind, if_neg (by simp [ordinal])]
  rcases early with preparing | uploading
  · rw [if_pos preparing]
    exact ends_advanceTo clean opened (by rw [preparing]; rfl) stage
  · rw [if_neg (by simp [uploading]), if_neg (by simp [uploading])]
    exact wp_done.mpr ⟨⟨_, rfl⟩, opened, uploading, stage⟩

/-- A put under a fresh key returns. -/
lemma ends_putVersionObject {relative : String}
    (early : session.state = .preparing ∨ session.state = .uploading)
    (stage : Stage location runId contents .uploading store)
    (plain : Str.contains (Str.trimStartMatches '/' relative) ".." = false)
    (fresh : contents (Str.trimStartMatches '/' relative) = none) :
    Ends s3 ((putVersionObject serde relative data).exec session) store (Reached location runId
        (Function.update contents (Str.trimStartMatches '/' relative) (some data))
        .uploading) := by
  rw [putVersionObject]
  apply ends_bind (ends_enterUploading clean opened early stage)
  intro _ _ after opened uploading stage
  rw [exec_get_bind, opened.dataset, versionObjectKey, opened.version,
    relative_data, Ends, Method.wp_bind, wp_ofFallible]
  apply ends_locateObject (relative_clean (.data _) clean plain)
  dsimp only
  rw [wp_ofFallible]
  apply ends_create
  · have nothing := stage.data (Str.trimStartMatches '/' relative)
    rw [fresh, Option.map_eq_none_iff] at nothing
    exact nothing
  · intro _
    exact ⟨⟨_, rfl⟩, opened, uploading, stage.putData _ (s3.stored after data)⟩

lemma ends_writeManifest {manifest : PublicationManifest} (verified : session.state = .verified)
    (stage : Stage location runId contents .verified store) :
    Ends s3 ((writeManifest serde manifest).exec session) store
      (Reached location runId contents .manifestWritten) := by
  rw [writeManifest, exec_get_bind, if_neg (not_not.mpr verified), opened.dataset,
    opened.version, relative_manifest, Ends, Method.wp_bind,
    wp_ofFallible]
  apply ends_locateObject (relative_clean .manifest clean rfl)
  dsimp only
  rw [Method.wp_bind, wp_ofFallible]
  apply ends_create (stage.absent_manifest (by decide))
  intro _
  exact wp_mono (fun _ _ ended => ended.1) (ends_persistState clean opened (stage.putManifest _))

lemma ends_commit (written : session.state = .manifestWritten)
    (stage : Stage location runId contents .manifestWritten store) :
    Ends s3 ((commit serde).exec session) store (Reached location runId contents .committed) := by
  have absent := stage.absent_commit (by decide)
  rw [commit, exec_get_bind, if_neg (not_not.mpr written), opened.dataset,
    opened.version, Ends, Method.wp_bind, wp_ofFallible]
  apply ends_isVersionCommitted clean
  rw [decide_eq_false (not_has_iff.mpr absent)]
  dsimp only
  rw [if_neg (by decide), relative_commit, Method.wp_bind, wp_ofFallible]
  apply ends_locateObject (relative_clean .commit clean rfl)
  dsimp only
  rw [Method.wp_bind, wp_ofFallible]
  apply ends_create absent
  intro _
  apply ends_bind (wp_mono (fun _ _ ended => ended.1)
    (ends_persistState clean opened (stage.putCommit _)))
  intro _ _ _ opened committed stage
  exact wp_done.mpr ⟨⟨_, rfl⟩, opened, committed, stage⟩

/-- Promotion makes the pointer name the run. -/
lemma ends_promoteCurrent (stage : Stage location runId contents .committed store) :
    Ends s3 ((promoteCurrent serde).exec session) store
      (fun outcome after => Reached location runId contents .current outcome after ∧
        Names serde location runId after) := by
  have within : current.Within (.only runId) := trivial
  have marked : store.Has (location.locate (.version runId .commit)) :=
    stage.commit.mpr (by decide)
  rw [promoteCurrent, exec_get_bind, opened.dataset, opened.version, Ends,
    Method.wp_bind, wp_ofFallible]
  apply ends_isVersionCommitted clean
  rw [decide_eq_true marked]
  dsimp only
  rw [if_pos rfl, Method.wp_bind, wp_ofFallible]
  change Ends s3 (locateObject (.s3 location) current.relative).run store _
  apply ends_locateObject (by decide)
  dsimp only
  rw [Method.wp_bind, wp_ofFallible]
  apply ends_replaceOrCreate
  intro _
  have promoted : Stage location runId contents .current (store.put (location.locate .current)
        (s3.stored store (serde.current.toVec ⟨runId⟩))) :=
    (stage.put within (fun _ same => by cases same)).advance (by decide) (by decide)
  apply wp_mono _ (ends_persistState clean opened promoted)
  intro _ _ persisted
  refine ⟨persisted.1, s3.stored store (serde.current.toVec ⟨runId⟩), ?_, ?_⟩
  · rw [persisted.2, put_objects_self]
  · simp [S3Service.stored]

end

omit clean in
lemma ends_releaseLock (opened : SessionOf location runId session)
    (stage : Stage location runId contents state store) (names : Names serde location runId store) :
    Ends s3 (releaseLock.exec session) store (fun outcome after => outcome.1 = .ok () ∧
      Stage location runId contents state after ∧ Names serde location runId after) := by
  rw [releaseLock, exec_get_bind]
  cases taken : session.lock with
  | none => exact wp_done.mpr ⟨rfl, stage, names⟩
  | some lock =>
    rw [Method.exec_set_bind, Ends, wp_ofFallible, release]
    cases released : lock.released with
    | true =>
      rw [if_pos rfl]
      exact wp_done.mpr ⟨rfl, stage, names⟩
    | false =>
      rw [if_neg (by decide), opened.lockObject lock taken]
      apply (ends_backendCall (.deleteOwnedObject _)).mpr
      rw [serve_delete]
      exact ⟨rfl, stage.removeLock, names.removeLock⟩

lemma ends_finish (opened : SessionOf location runId session)
    (written : session.state = .manifestWritten)
    (stage : Stage location runId contents .manifestWritten store) :
    Ends s3 ((finish serde true).exec session) store (fun outcome after =>
      outcome.1 = .ok () ∧ Stage location runId contents .current after ∧
      Names serde location runId after) := by
  have committed : Ends s3 ((commitWritten serde).exec session) store
      (Reached location runId contents .committed) := by
    rw [commitWritten, exec_get_bind, if_pos written]
    apply ends_bind (ends_commit clean opened written stage)
    intro _ _ _ opened committed stage
    exact wp_done.mpr ⟨⟨_, rfl⟩, opened, committed, stage⟩
  rw [finish]
  apply ends_bind committed
  intro _ _ _ opened _ stage
  rw [Ends, Method.wp_bind]
  apply wp_mono _ (ends_promoteCurrent clean opened stage)
  intro outcome _ promoted
  obtain ⟨ended, names⟩ := promoted
  rcases outcome with ⟨_, _⟩
  obtain ⟨_, returned⟩ := ended.returns
  dsimp only at returned
  subst returned
  exact ends_releaseLock ended.session ended.stage names

/-! ## Beginning again -/

omit clean in
/-- Taking the lock when it is free or was left by the same run. -/
lemma ends_acquire (lock : ∀ object, store.objects (location.locate .writerLock) = some object →
      ∃ record, serde.lock.fromSlice object.data = .ok record ∧ record.runId = runId) :
    Ends s3 (acquire serde .s3 (.s3 location) runId).run store
      (fun result after => result = .ok ⟨location.locate .writerLock, ⟨runId, runId⟩, false⟩ ∧
        ∀ path : PublicationPath, path.Within (.only runId) → path ≠ .writerLock →
          after.objects (location.locate path) = store.objects (location.locate path)) := by
  have within : writerLock.Within (.only runId) := trivial
  rw [acquire, if_neg (by decide), Ends, wp_bind]
  change Ends s3 (locateObject (.s3 location) writerLock.relative).run store _
  apply ends_locateObject (by decide)
  apply (ends_request_bind (.conditionalCreate _ .mustNotExist _)).mpr
  cases lookup : store.objects (location.locate .writerLock) with
  | none =>
    rw [serve_create_none lookup]
    refine wp_done.mpr ⟨rfl, fun path pathWithin different => ?_⟩
    exact put_run_of_ne path within pathWithin different
  | some object =>
    obtain ⟨_, decoded, same⟩ := lock object lookup
    rw [serve_create_some lookup]
    change Ends s3 (reclaimOrReject serde _ _).run store _
    rw [reclaimOrReject, Ends, wp_bind, readJsonObject, wp_bind]
    apply (ends_backendCall (.readStream _)).mpr
    rw [serve_read_some lookup]
    dsimp only [Except.mapError]
    rw [decoded]
    apply wp_done.mpr
    dsimp only
    rw [if_neg (by simp [same]), wp_bind]
    apply (ends_backendCall (.deleteOwnedObject _)).mpr
    rw [serve_delete]
    dsimp only [Except.mapError]
    rw [wp_bind]
    apply ends_create (remove_objects_self _ _)
    intro _
    refine wp_done.mpr ⟨rfl, fun path pathWithin different => ?_⟩
    rw [put_run_of_ne path within pathWithin different, remove_lock_of_ne pathWithin different]

/-- A store on which the run has not created any data object. -/
structure Restartable (serde : SerdeJson Bytes) (location : S3Location) (runId : String)
    (store : Store Bytes) : Prop where
  lock : ∀ object, store.objects (location.locate .writerLock) = some object →
    ∃ record, serde.lock.fromSlice object.data = .ok record ∧ record.runId = runId
  state : ∀ object, store.objects (location.locate (.version runId .state)) = some object →
    ∃ record, serde.state.fromSlice object.data = .ok record ∧
      (record.state = .preparing ∨ record.state = .uploading)
  stage : Stage location runId (fun _ => none) .uploading store

/-- Recovery finds a state from which files can be uploaded. -/
lemma ends_loadRecoveredState (state : ∀ object,
      store.objects (location.locate (.version runId .state)) = some object →
      ∃ record, serde.state.fromSlice object.data = .ok record ∧
        (record.state = .preparing ∨ record.state = .uploading))
    (stage : Stage location runId contents .uploading store) :
    Ends s3 (loadRecoveredState serde (.s3 location) runId).run store
      (fun result after => after = store ∧ ∃ recovered, result = .ok recovered ∧
        (stateAtBegin recovered = .preparing ∨ stateAtBegin recovered = .uploading)) := by
  have absent := stage.absent_commit (by decide)
  rw [loadRecoveredState, Ends, wp_bind]
  apply ends_isVersionCommitted clean
  rw [decide_eq_false (not_has_iff.mpr absent)]
  dsimp only
  rw [if_neg (by decide), relative_state, wp_bind]
  apply ends_locateObject (relative_clean .state clean rfl)
  dsimp only
  rw [wp_attempt_bind, readJsonObject, wp_bind]
  apply (ends_backendCall (.readStream _)).mpr
  cases lookup : store.objects (location.locate (.version runId .state)) with
  | none =>
    rw [serve_read_none lookup]
    exact wp_done.mpr ⟨rfl, none, rfl, .inl rfl⟩
  | some object =>
    obtain ⟨record, decoded, early⟩ := state object lookup
    rw [serve_read_some lookup]
    dsimp only [Except.mapError]
    rw [decoded]
    apply wp_done.mpr
    exact wp_done.mpr ⟨rfl, some record, rfl, early⟩

lemma ends_begin (restartable : Restartable serde location runId store) :
    Ends s3 (begin serde .s3 (.s3 location) runId).run store
      (fun result after => ∃ session, result = .ok session ∧ SessionOf location runId session ∧
        (session.state = .preparing ∨ session.state = .uploading) ∧
        Stage location runId (fun _ => none) .uploading after) := by
  rw [begin, Ends, wp_bind]
  apply wp_mono _ (ends_acquire restartable.lock)
  intro result after acquired
  obtain ⟨rfl, others⟩ := acquired
  have apart : ∀ file, after.objects (location.locate (.version runId file)) =
      store.objects (location.locate (.version runId file)) :=
    fun file => others (.version runId file) rfl (by simp)
  have stage : Stage location runId (fun _ => none) .uploading after := by
    constructor
    · intro key
      rw [apart]
      exact restartable.stage.data key
    · rw [Has, apart]
      exact restartable.stage.manifest
    · rw [Has, apart]
      exact restartable.stage.commit
  dsimp only [versionId]
  rw [wp_bind]
  apply wp_mono _ (ends_loadRecoveredState clean
    (fun object lookup => restartable.state object (apart .state ▸ lookup)) stage)
  intro _ final loaded
  obtain ⟨same, recovered, returned, early⟩ := loaded
  subst same returned
  have opened : SessionOf location runId ⟨.s3 location, runId, runId, stateAtBegin recovered,
        some ⟨location.locate .writerLock, ⟨runId, runId⟩, false⟩⟩ := by
    refine ⟨rfl, rfl, fun lock taken => ?_⟩
    cases taken
    rfl
  dsimp only
  split
  · change Program.wp _ _ _ (Method.exec _ _ >>= _) _
    rw [Program.wp_bind]
    have preparing : Stage location runId (fun _ => none) .preparing final :=
      stage.advance (by decide) (by decide)
    apply wp_mono _ (ends_persistState clean opened preparing)
    intro outcome _ persisted
    rcases outcome with ⟨_, session⟩
    obtain ⟨_, returned⟩ := persisted.1.returns
    dsimp only at returned
    subst returned
    refine wp_done.mpr ⟨session, rfl, persisted.1.session, .inl persisted.1.state, ?_⟩
    exact persisted.1.stage.advance (by decide) (by decide)
  · exact wp_done.mpr ⟨_, rfl, opened, early, stage⟩

end RemotePublicationSession

end

/-!
## Backend calls of a first upload

The states between the backend calls that lead up to the first data object of a run on
an unpublished dataset. A failed call ends the session operation that made it.
-/

variable {final : Store Bytes}

/-- A call whose failures end the program, and the calls after it. -/
lemma spine_request_bind (request : Request Bytes)
    {cont : request.Answer → BackendM Bytes α} {answer : request.Answer}
    {states : List (Store Bytes)} {result : Except PublicationError α} {middle : Store Bytes}
    (gives : ∀ error : StorageError, error.isFailure = true →
      (cont (.error error)).run = .done (.error (.storage error)))
    (served : s3.service.serve request store = (answer, middle))
    (rest : Spine s3.service IsError (cont answer).run middle states result final) :
    Spine s3.service IsError (Fallible.request request >>= cont).run store
      (store :: states) result final := by
  apply Spine.call
  · intro _ fault
    obtain ⟨error, failure, rfl⟩ := fault
    exact ⟨_, gives error failure, _, rfl⟩
  · rw [served]
    exact rest

lemma spine_backendCall (request : Request Bytes) {answer : request.Answer}
    (served : s3.service.serve request store = (answer, final)) :
    Spine s3.service IsError (backendCall request).run store [store]
      (answer.mapError .storage) final := by
  rw [backendCall]
  apply spine_request_bind request (fun _ _ => rfl) served
  cases answer <;> exact .done

lemma spine_locateObject (clean : Str.contains path.relative ".." = false) :
    Spine s3.service IsError (locateObject (.s3 location) path.relative).run store []
      (.ok (location.locate path)) store := by
  rw [locateObject, location.objectAt_relative path, clean]
  exact .done

lemma spine_create (absent : store.objects (location.locate path) = none) :
    Spine s3.service IsError (backendCall
      (.conditionalCreate (location.locate path) .mustNotExist data)).run store [store]
      (.ok (s3.metadata (location.locate path) (s3.stored store data)))
      (store.put (location.locate path) (s3.stored store data)) :=
  spine_backendCall (.conditionalCreate _ _ _) (serve_create_none absent)

/-- Replacing or creating is two calls, the first of which only reads. -/
lemma spine_replaceOrCreate :
    Spine s3.service IsError (replaceOrCreate (location.locate path) data).run store [store, store]
      (.ok (s3.metadata (location.locate path) (s3.stored store data)))
      (store.put (location.locate path) (s3.stored store data)) := by
  rw [replaceOrCreate]
  cases lookup : store.objects (location.locate path) with
  | none =>
    apply spine_request_bind (.head _) _ (serve_head_none lookup) (spine_create lookup)
    intro error failure
    cases error <;> first
      | rfl
      | cases failure
  | some =>
    apply spine_request_bind (.head _) _ (serve_head_some lookup)
      (spine_backendCall (.conditionalReplace _ _ _) (serve_replace_matching lookup))
    intro error failure
    cases error <;> first
      | rfl
      | cases failure

lemma spine_isVersionCommitted {versionId : String} (clean : Str.contains versionId ".." = false)
    (absent : store.objects (location.locate (.version versionId .commit)) = none) :
    Spine s3.service IsError (isVersionCommitted (.s3 location) versionId).run store [store]
      (.ok false) store := by
  rw [isVersionCommitted, relative_commit]
  apply Fallible.spine_bind (spine_locateObject (relative_clean .commit clean rfl))
  apply spine_request_bind (.head _) _ (serve_head_none absent) .done
  intro error failure
  cases error <;> first
    | rfl
    | cases failure

namespace RemotePublicationSession

variable {serde : SerdeJson Bytes} {session : RemotePublicationSession} {runId : String}

lemma spine_acquire (absent : store.objects (location.locate .writerLock) = none) :
    Spine s3.service IsError
      (RemotePublicationLock.acquire serde .s3 (.s3 location) runId).run store [store]
      (.ok ⟨location.locate .writerLock, ⟨runId, runId⟩, false⟩)
      (store.put (location.locate .writerLock)
        (s3.stored store (serde.lock.toVec ⟨runId, runId⟩))) := by
  rw [RemotePublicationLock.acquire, if_neg (by decide)]
  have located : Spine s3.service IsError
      (locateObject (.s3 location) writerLock.relative).run store []
      (.ok (location.locate .writerLock)) store := spine_locateObject (by decide)
  apply Fallible.spine_bind located
  apply spine_request_bind (.conditionalCreate _ .mustNotExist _) _ (serve_create_none absent) .done
  intro error failure
  cases error <;> first
    | rfl
    | cases failure

lemma spine_loadRecoveredState (clean : Str.contains runId ".." = false)
    (unmarked : store.objects (location.locate (.version runId .commit)) = none)
    (absent : store.objects (location.locate (.version runId .state)) = none) :
    Spine s3.service IsError (loadRecoveredState serde (.s3 location) runId).run store
      [store, store] (.ok none) store := by
  rw [loadRecoveredState]
  apply Fallible.spine_bind (spine_isVersionCommitted clean unmarked)
  rw [if_neg (by decide), relative_state]
  apply Fallible.spine_bind (spine_locateObject (relative_clean .state clean rfl))
  apply Spine.call
  · intro _ fault
    obtain ⟨error, failure, rfl⟩ := fault
    cases error <;> first
      | exact ⟨_, rfl, _, rfl⟩
      | cases failure
  · rw [serve_read_none absent]
    exact .done

variable {next : PublicationState}

lemma spine_persistState (clean : Str.contains runId ".." = false)
    (opened : SessionOf location runId session) :
    Spine s3.service OutcomeIsError ((persistState serde next).exec session) store [store, store]
      (.ok (), ⟨.s3 location, session.versionId, session.runId, next, session.lock⟩)
      (store.put (location.locate (.version runId .state)) (s3.stored store (serde.state.toVec
        ⟨PUBLICATION_CONTRACT_VERSION, runId, session.runId, next⟩))) := by
  rw [persistState, Method.exec_get_bind, opened.dataset, opened.version, relative_state]
  apply Method.spine_bind (Method.spine_ofFallible
    (spine_locateObject (relative_clean .state clean rfl)))
  apply Method.spine_bind (Method.spine_ofFallible spine_replaceOrCreate)
  exact .done

/-- The store while a first session is being opened: the lock is taken, the state may be recorded,
and nothing else of the run. -/
lemma Unpublished.restartable (unpublished : Unpublished location store) :
    Restartable serde location runId store := by
  refine ⟨?_, ?_, ⟨?_, ?_, ?_⟩⟩
  · intro _ lookup
    rw [unpublished] at lookup
    cases lookup
  · intro _ lookup
    rw [unpublished] at lookup
    cases lookup
  · intro _
    rw [unpublished]
    rfl
  · rw [Store.Has, unpublished]
    simp [PublicationState.ordinal]
  · rw [Store.Has, unpublished]
    simp [PublicationState.ordinal]

lemma Restartable.putLock (restartable : Restartable serde location runId store) :
    Restartable serde location runId (store.put (location.locate .writerLock)
      (s3.stored store (serde.lock.toVec ⟨runId, runId⟩))) := by
  have within : writerLock.Within (.only runId) := trivial
  refine ⟨?_, ?_, restartable.stage.put within nofun⟩
  · intro object lookup
    rw [Store.put_objects_self] at lookup
    cases lookup
    exact ⟨⟨runId, runId⟩, by simp [S3Service.stored], rfl⟩
  · intro object lookup
    rw [put_run_of_ne (.version runId .state) within rfl (by simp)] at lookup
    exact restartable.state object lookup

lemma Restartable.putState {owner : String} (restartable : Restartable serde location runId store)
    (early : next = .preparing ∨ next = .uploading) :
    Restartable serde location runId (store.put (location.locate (.version runId .state))
      (s3.stored store (serde.state.toVec
        ⟨PUBLICATION_CONTRACT_VERSION, runId, owner, next⟩))) := by
  have within : (version runId .state).Within (.only runId) := rfl
  refine ⟨?_, ?_, restartable.stage.put within ?_⟩
  · intro object lookup
    rw [put_run_of_ne .writerLock within trivial (by simp)] at lookup
    exact restartable.lock object lookup
  · intro _ lookup
    rw [Store.put_objects_self] at lookup
    cases lookup
    exact ⟨_, by simp [S3Service.stored]; rfl, early⟩
  · intro _ same
    cases same
    rfl

/-- Opening the first session of a run makes five calls, and the run can be started
again after each of them. -/
lemma spine_begin (serde : SerdeJson Bytes) (s3 : S3Service Bytes)
    (clean : Str.contains runId ".." = false) (unpublished : Unpublished location store) :
    ∃ states session final,
      Spine s3.service IsError (begin serde .s3 (.s3 location) runId).run store states
        (.ok session) final ∧
      states.length = 5 ∧ (∀ state ∈ states, Restartable serde location runId state) ∧
      Restartable serde location runId final ∧
      SessionOf location runId session ∧ session.state = .preparing := by
  have within : writerLock.Within (.only runId) := trivial
  have initial : Restartable serde location runId store := Unpublished.restartable unpublished
  let locked := store.put (location.locate .writerLock)
    (s3.stored store (serde.lock.toVec ⟨runId, runId⟩))
  have lockedRestartable : Restartable serde location runId locked := initial.putLock
  have apart : ∀ file, locked.objects (location.locate (.version runId file)) = none := by
    intro file
    rw [put_run_of_ne (.version runId file) within rfl (by simp)]
    exact unpublished _
  let lock : RemotePublicationLock := ⟨location.locate .writerLock, ⟨runId, runId⟩, false⟩
  let session : RemotePublicationSession :=
    ⟨.s3 location, runId, runId, .preparing, some lock⟩
  have opened : SessionOf location runId session := by
    refine ⟨rfl, rfl, fun lock taken => ?_⟩
    cases taken
    rfl
  have spine : Spine s3.service IsError (begin serde .s3 (.s3 location) runId).run store
      ([store] ++ ([locked, locked] ++ [locked, locked])) (.ok session)
      (locked.put (location.locate (.version runId .state)) (s3.stored locked
        (serde.state.toVec ⟨PUBLICATION_CONTRACT_VERSION, runId, runId, .preparing⟩))) := by
    rw [begin]
    apply Fallible.spine_bind (spine_acquire (unpublished _))
    apply Fallible.spine_bind (spine_loadRecoveredState clean (apart .commit) (apart .state))
    change Spine s3.service IsError ((persistState serde .preparing).exec session >>=
      fun outcome => .done (outcome.1.map fun _ => outcome.2)) locked _ _ _
    apply (spine_persistState clean opened).map (fun outcome => outcome.1.map fun _ => outcome.2)
    intro _ failure
    obtain ⟨error, ended⟩ := failure
    exact ⟨error, by rw [ended]; rfl⟩
  refine ⟨_, session, _, spine, rfl, ?_, lockedRestartable.putState (.inl rfl), opened, rfl⟩
  intro _ mem
  simp only [List.cons_append, List.nil_append, List.mem_cons, List.not_mem_nil,
    or_false, or_self] at mem
  rcases mem with same | same
  · rw [same]
    exact initial
  · rw [same]
    exact lockedRestartable

/-- Creating the first data object makes three calls, and the run can be started again
before each of them. -/
lemma spine_putVersionObject (s3 : S3Service Bytes) {relative : String} (data : Bytes)
    (clean : Str.contains runId ".." = false)
    (plain : Str.contains (Str.trimStartMatches '/' relative) ".." = false)
    (restartable : Restartable serde location runId store)
    (opened : SessionOf location runId session) (preparing : session.state = .preparing) :
    ∃ states outcome final,
      Spine s3.service OutcomeIsError ((putVersionObject serde relative data).exec session)
        store states outcome final ∧
      states.length = 3 ∧ (∀ state ∈ states, Restartable serde location runId state) ∧
      final.Has (location.locate (dataPath runId relative)) := by
  let uploading := store.put (location.locate (.version runId .state)) (s3.stored store
    (serde.state.toVec ⟨PUBLICATION_CONTRACT_VERSION, runId, session.runId, .uploading⟩))
  have uploadingRestartable : Restartable serde location runId uploading :=
    restartable.putState (.inr rfl)
  have absent : uploading.objects (location.locate (dataPath runId relative)) = none := by
    have nothing := uploadingRestartable.stage.data (Str.trimStartMatches '/' relative)
    rwa [Option.map_eq_none_iff] at nothing
  have entered : Spine s3.service OutcomeIsError ((enterUploading serde).exec session) store
      [store, store]
      (.ok (), ⟨.s3 location, session.versionId, session.runId, .uploading, session.lock⟩)
      uploading := by
    rw [enterUploading, Method.exec_get_bind, if_neg (by simp [PublicationState.ordinal]),
      if_pos preparing, advanceTo, Method.exec_get_bind, if_neg (by simp [preparing]),
      if_neg (by simp [preparing, PublicationState.allowsTransition])]
    exact spine_persistState clean opened
  have spine : Spine s3.service OutcomeIsError
      ((putVersionObject serde relative data).exec session) store
      ([store, store] ++ ([] ++ [uploading]))
      (.ok (s3.metadata (location.locate (dataPath runId relative)) (s3.stored uploading data)),
        ⟨.s3 location, session.versionId, session.runId, .uploading, session.lock⟩)
      (uploading.put (location.locate (dataPath runId relative)) (s3.stored uploading data)) := by
    rw [putVersionObject]
    apply Method.spine_bind entered
    rw [Method.exec_get_bind, versionObjectKey]
    dsimp only
    rw [opened.version, relative_data]
    apply Method.spine_bind (Method.spine_ofFallible
      (spine_locateObject (relative_clean (.data _) clean plain)))
    exact Method.spine_ofFallible (spine_create absent)
  refine ⟨_, _, _, spine, rfl, ?_, Store.has_put.mpr (.inl rfl)⟩
  intro _ mem
  simp only [List.cons_append, List.nil_append, List.mem_cons, List.not_mem_nil, or_false] at mem
  rcases mem with same | same | same
  · rw [same]
    exact restartable
  · rw [same]
    exact restartable
  · rw [same]
    exact uploadingRestartable

end RemotePublicationSession

end Parqonaut.Storage
