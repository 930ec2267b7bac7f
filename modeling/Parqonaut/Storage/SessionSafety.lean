import Parqonaut.Storage.Calls

/-!
# Session methods keep a dataset consistent

The invariant of a session ties its in-memory state to the store: the objects that the state stands
for are present, and before the manifest there is no commit marker, so that data can still be
added.
-/

namespace Parqonaut.Storage

open Effects Rust Fallible PublicationState PublicationPath RemotePublicationLock
open Method (ofFallible)
open Method (wp_ofFallible exec_get_bind)
open Program (wp_done wp_mono)

variable {Bytes : Type}

structure SessionConsistent (ids : VersionIds) (location : S3Location)
    (session : RemotePublicationSession)
    (store : Store Bytes) : Prop where
  dataset : session.dataset = .s3 location
  admits : ids.Admits session.versionId
  backed : Backed location store session.versionId session.state
  unmarked : session.state.ordinal < manifestWritten.ordinal →
    ¬ store.Has (location.locate (.version session.versionId .commit))
  lockObject : ∀ lock, session.lock = some lock → lock.lockObject = location.locate .writerLock

/-- What a method leaves behind, also with an error; one that returns has brought the session to a
state in `reached`. -/
structure SessionPost {ε α : Type} (ids : VersionIds) (serde : SerdeJson Bytes)
    (location : S3Location) (before : RemotePublicationSession) (reached : PublicationState → Prop)
    (outcome : Except ε α × RemotePublicationSession) (store : Store Bytes) : Prop where
  consistent : Consistent ids serde location store
  session : SessionConsistent ids location outcome.2 store
  version : outcome.2.versionId = before.versionId
  reached : ∀ value, outcome.1 = .ok value → reached outcome.2.state

variable {ids : VersionIds} {serde : SerdeJson Bytes} {location : S3Location} {s3 : S3Service Bytes}
  {store : Store Bytes} {session : RemotePublicationSession}

/-- A write away from the marker of the session's version keeps the session
invariant. -/
lemma SessionConsistent.put {path : PublicationPath} {object : StoredObject Bytes}
    (holds : SessionConsistent ids location session store) (within : path.Within ids)
    (other : version session.versionId .commit ≠ path) :
    SessionConsistent ids location session (store.put (location.locate path) object) where
  dataset := holds.dataset
  admits := holds.admits
  backed := holds.backed.put
  unmarked := by
    intro early marked
    rw [Store.Has, put_locate_of_ne (.version session.versionId .commit) within
      holds.admits other] at marked
    exact holds.unmarked early marked
  lockObject := holds.lockObject

/-- A method of a session whose errors are of any type. -/
abbrev SessionMethod (Bytes ε : Type) : Type → Type :=
  Method (Request Bytes) Request.Answer RemotePublicationSession ε

/-- The calls of a method keep the dataset consistent, and the method keeps the session so. -/
abbrev Safe {ε α : Type} (ids : VersionIds) (serde : SerdeJson Bytes) (location : S3Location)
    (s3 : S3Service Bytes) (reached : PublicationState → Prop) (method : SessionMethod Bytes ε α)
    (session : RemotePublicationSession) (store : Store Bytes) : Prop :=
  (method.exec session).wp s3.service (Preserves ids serde location)
    (SessionPost ids serde location session reached) store

section

variable {ε ε' α β : Type} {before : RemotePublicationSession}
  {reached later : PublicationState → Prop}

/-- A method that fails only has to keep the invariants. -/
lemma SessionPost.failed {error : ε} (valid : Consistent ids serde location store)
    (holds : SessionConsistent ids location session store)
    (version : session.versionId = before.versionId) :
    SessionPost ids serde location before reached
      ((.error error, session) : Except ε α × RemotePublicationSession) store where
  consistent := valid
  session := holds
  version := version
  reached := fun _ returned => nomatch returned

variable {outcome : Except ε α × RemotePublicationSession}

/-- The postcondition of the second of two methods, seen from before the first. -/
lemma SessionPost.trans (version : session.versionId = before.versionId)
    (post : SessionPost ids serde location session reached outcome store) :
    SessionPost ids serde location before reached outcome store :=
  ⟨post.consistent, post.session, post.version.trans version, post.reached⟩

variable {method : SessionMethod Bytes ε α}

lemma Safe.weaken (safe : Safe ids serde location s3 reached method session store)
    (implies : ∀ state, reached state → later state) :
    Safe ids serde location s3 later method session store := by
  apply wp_mono _ safe
  intro _ _ post
  exact ⟨post.consistent, post.session, post.version, fun value returned =>
    implies _ (post.reached value returned)⟩

/-- Two methods in sequence. -/
lemma wp_session_bind {second : α → SessionMethod Bytes ε β}
    (holds : Safe ids serde location s3 reached method session store)
    (rest : ∀ value next after, Consistent ids serde location after →
      SessionConsistent ids location next after → next.versionId = session.versionId →
      reached next.state → Safe ids serde location s3 later (second value) next after) :
    Safe ids serde location s3 later (method >>= second) session store := by
  rw [Safe, Method.wp_bind]
  apply wp_mono _ holds
  intro outcome after post
  rcases outcome with ⟨result, next⟩
  cases result with
  | error => exact SessionPost.failed post.consistent post.session post.version
  | ok value =>
    apply wp_mono _ (rest value next after post.consistent post.session post.version
      (post.reached value rfl))
    intro _ _ ended
    exact ended.trans post.version

lemma wp_session_mapErr {convert : ε → ε'}
    (holds : Safe ids serde location s3 reached method session store) :
    Safe ids serde location s3 reached (Method.mapErr convert method) session store := by
  rw [Safe, Method.wp_mapErr]
  apply wp_mono _ holds
  rintro ⟨result, _⟩ _ post
  refine ⟨post.consistent, post.session, post.version, fun value returned => ?_⟩
  cases result with
  | error => cases returned
  | ok result => exact post.reached result rfl

end

namespace RemotePublicationSession

section

variable {α : Type} {reached : PublicationState → Prop}
  (valid : Consistent ids serde location store)
  (holds : SessionConsistent ids location session store)

include valid holds

/-! ## Steps of the methods -/

lemma safe_pure {ε : Type} (value : α) :
    Safe ids serde location s3 (fun _ => True) (pure value : SessionMethod Bytes ε α)
      session store :=
  wp_done.mpr ⟨valid, holds, rfl, fun _ _ => trivial⟩

lemma safe_throw {ε : Type} (error : ε) :
    Safe ids serde location s3 reached (throw error : SessionMethod Bytes ε α) session store :=
  wp_done.mpr (SessionPost.failed valid holds rfl)

lemma safe_locate_bind (path : PublicationPath) {rest : ObjectLocation → SessionM Bytes α}
    (found : Safe ids serde location s3 reached (rest (location.locate path)) session store) :
    Safe ids serde location s3 reached
      (ofFallible (locateObject (.s3 location) path.relative) >>= rest) session store := by
  rw [Safe, Method.wp_bind, wp_ofFallible]
  apply wp_locateObject
  · intro _
    exact SessionPost.failed valid holds rfl
  · intro _
    exact found

lemma safe_isVersionCommitted_bind {rest : Bool → SessionM Bytes α}
    (committed : store.Has (location.locate (.version session.versionId .commit)) →
      Safe ids serde location s3 reached (rest true) session store)
    (uncommitted : ¬ store.Has (location.locate (.version session.versionId .commit)) →
      Safe ids serde location s3 reached (rest false) session store) :
    Safe ids serde location s3 reached
      (ofFallible (isVersionCommitted (.s3 location) session.versionId) >>= rest)
      session store := by
  rw [Safe, Method.wp_bind, wp_ofFallible]
  apply wp_isVersionCommitted (preserves_refl valid)
  · intro _
    exact SessionPost.failed valid holds rfl
  · intro _ marked
    exact committed marked
  · exact uncommitted

variable {path : PublicationPath} {data : Bytes} {rest : ObjectMetadata → SessionM Bytes α}

lemma safe_create_bind (within : path.Within ids)
    (admissible : store.objects (location.locate path) = none →
      Admissible ids serde location store path data)
    (creates : ∀ metadata,
      Consistent ids serde location (store.put (location.locate path) (s3.stored store data)) →
      Safe ids serde location s3 reached (rest metadata) session
        (store.put (location.locate path) (s3.stored store data))) :
    Safe ids serde location s3 reached
      (ofFallible (backendCall (.conditionalCreate (location.locate path) .mustNotExist
        data)) >>= rest) session store := by
  rw [Safe, Method.wp_bind, wp_ofFallible]
  apply wp_create (preserves_refl valid)
  · intro _
    exact SessionPost.failed valid holds rfl
  · intro absent
    have kept : Preserves ids serde location store
        (store.put (location.locate path) (s3.stored store data)) :=
      preserves_put valid within (admissible absent)
    exact ⟨kept, fun metadata => creates metadata kept.1⟩

lemma safe_replaceOrCreate_bind (within : path.Within ids)
    (admissible : Admissible ids serde location store path data)
    (writes : ∀ metadata,
      Consistent ids serde location (store.put (location.locate path) (s3.stored store data)) →
      Safe ids serde location s3 reached (rest metadata) session
        (store.put (location.locate path) (s3.stored store data))) :
    Safe ids serde location s3 reached
      (ofFallible (replaceOrCreate (location.locate path) data) >>= rest)
      session store := by
  rw [Safe, Method.wp_bind, wp_ofFallible]
  apply wp_replaceOrCreate (preserves_refl valid)
  · intro _
    exact SessionPost.failed valid holds rfl
  · have kept : Preserves ids serde location store
        (store.put (location.locate path) (s3.stored store data)) :=
      preserves_put valid within admissible
    exact ⟨kept, fun metadata => writes metadata kept.1⟩

/-! ## Methods -/

/-- Recording a state is safe when the objects that it stands for are present. -/
lemma wp_persistState {state : PublicationState}
    (backed : Backed location store session.versionId state)
    (unmarked : state.ordinal < manifestWritten.ordinal →
      ¬ store.Has (location.locate (.version session.versionId .commit))) :
    Safe ids serde location s3 (· = state) (persistState serde state) session store := by
  have within : (version session.versionId .state).Within ids :=
    holds.admits
  rw [persistState, Safe, exec_get_bind, holds.dataset, relative_state]
  apply safe_locate_bind valid holds
  apply safe_replaceOrCreate_bind valid holds within
  · intro _ decoded
    simp only [JsonCodec.fromSlice_toVec, Except.ok.injEq] at decoded
    subst decoded
    exact backed
  · intro _ written
    rw [Safe, Method.exec_set, wp_done]
    have moved : SessionConsistent ids location
        ⟨.s3 location, session.versionId, session.runId, state, session.lock⟩ store :=
      ⟨rfl, holds.admits, backed, unmarked, holds.lockObject⟩
    exact ⟨written, moved.put within (by simp), rfl, fun _ _ => rfl⟩

/-- The transitions of the state machine below the commit marker. -/
lemma wp_advanceTo {next : PublicationState} (below : next.ordinal < manifestWritten.ordinal) :
    Safe ids serde location s3 (· = next) (advanceTo serde next) session store := by
  rw [advanceTo, Safe, exec_get_bind]
  by_cases same : session.state = next
  · rw [if_pos same, Method.exec_pure, wp_done]
    exact ⟨valid, holds, rfl, fun _ _ => same⟩
  · rw [if_neg same]
    cases allowed : allowsTransition session.state next with
    | false => exact safe_throw valid holds _
    | true =>
      rw [if_neg (by decide)]
      have early : session.state.ordinal < manifestWritten.ordinal := by
        revert allowed below
        cases session.state <;> cases next <;> decide
      apply wp_persistState valid holds
      · constructor
        · intro reached
          omega
        · intro reached
          simp only [ordinal] at below reached
          omega
      · intro _
        exact holds.unmarked early

lemma wp_enterUploading : Safe ids serde location s3
      (fun state => state.ordinal < manifestWritten.ordinal)
      (enterUploading serde) session store := by
  rw [enterUploading, Safe, exec_get_bind, if_neg (by simp [ordinal])]
  by_cases preparing : session.state = .preparing
  · rw [if_pos preparing]
    apply (wp_advanceTo valid holds (by decide)).weaken
    rintro state rfl
    decide
  · rw [if_neg preparing]
    by_cases later : uploading.ordinal < session.state.ordinal
    · rw [if_pos later]
      exact safe_throw valid holds _
    · rw [if_neg later, Method.exec_pure, wp_done]
      refine ⟨valid, holds, rfl, fun _ _ => ?_⟩
      simp only [ordinal] at later ⊢
      omega

/-- Object that a put addresses. -/
def dataPath (versionId relative : String) : PublicationPath :=
  .version versionId (.data (Str.trimStartMatches '/' relative))

/-- A put that returns has created an object that was not there. -/
structure Created (location : S3Location) (path : PublicationPath)
    (before after : Store Bytes) : Prop where
  clean : Str.contains path.relative ".." = false
  absent : ¬ before.Has (location.locate path)
  present : after.Has (location.locate path)

lemma wp_putVersionObject {relative : String} :
    ((putVersionObject serde relative data).exec session).wp s3.service
      (Preserves ids serde location)
      (fun outcome after =>
        SessionPost ids serde location session (fun _ => True) outcome after ∧
        ∀ metadata, outcome.1 = .ok metadata →
          Created location (dataPath session.versionId relative) store after) store := by
  rw [putVersionObject, Method.wp_bind]
  apply wp_mono _ (Program.wp_relates Keeps.refl Keeps.trans
    (fun _ _ preserves => preserves.2) (wp_enterUploading valid holds))
  intro outcome after entered
  obtain ⟨post, keeps⟩ := entered
  rcases outcome with ⟨result, next⟩
  cases result with
  | error =>
    exact ⟨SessionPost.failed post.consistent post.session post.version, nofun⟩
  | ok value =>
    have version : next.versionId = session.versionId := post.version
    have within : (dataPath session.versionId relative).Within ids := holds.admits
    have unmarked := post.session.unmarked (post.reached value rfl)
    rw [version] at unmarked
    have failed : ∀ error, SessionPost ids serde location session (fun _ => True)
        ((.error error, next) : Except PublicationError ObjectMetadata × _) after :=
      fun _ => SessionPost.failed post.consistent post.session version
    dsimp only
    rw [exec_get_bind, post.session.dataset, versionObjectKey, version,
      relative_data, Method.wp_bind, wp_ofFallible]
    apply wp_locateObject
    · intro error
      exact ⟨failed error, nofun⟩
    · intro clean
      dsimp only
      rw [wp_ofFallible]
      apply wp_create (preserves_refl post.consistent)
      · intro error
        exact ⟨failed error, nofun⟩
      · intro absent
        refine ⟨preserves_put post.consistent within unmarked, fun metadata => ?_⟩
        refine ⟨⟨post.consistent.put within unmarked,
          post.session.put within (by simp), version, fun _ _ => trivial⟩, fun _ _ => ?_⟩
        refine ⟨clean, fun before => ?_, Store.has_put.mpr (.inl rfl)⟩
        have still := keeps.present _ within (by simp [dataPath]) before
        exact Store.not_has_iff.mpr absent still

lemma wp_writeManifest {manifest : PublicationManifest} :
    Safe ids serde location s3 (fun _ => True) (writeManifest serde manifest) session store := by
  rw [writeManifest, Safe, exec_get_bind]
  by_cases verified : session.state = .verified
  · rw [if_neg (not_not.mpr verified), holds.dataset, relative_manifest]
    have within : (version session.versionId .manifest).Within ids :=
      holds.admits
    apply safe_locate_bind valid holds
    apply safe_create_bind valid holds within id
    intro _ written
    refine Safe.weaken (wp_persistState written (holds.put within (by simp)) ?_ ?_)
      fun _ _ => trivial
    · constructor
      · intro _
        exact Store.has_put.mpr (.inl rfl)
      · intro reached
        exact absurd reached (by decide)
    · intro early
      exact absurd early (by decide)
  · rw [if_pos verified]
    exact safe_throw valid holds _

/-- After the marker is written the version has both the manifest and the marker. -/
lemma wp_commit : Safe ids serde location s3 (fun _ => True) (commit serde) session store := by
  rw [commit, Safe, exec_get_bind]
  by_cases written : session.state = .manifestWritten
  · have manifest := holds.backed.manifest (by simp [written])
    rw [if_neg (not_not.mpr written), holds.dataset]
    apply safe_isVersionCommitted_bind valid holds
    · intro marked
      rw [if_pos rfl, Safe, Method.exec_set_bind, Method.exec_pure, wp_done]
      refine ⟨valid, ?_, rfl, fun _ _ => trivial⟩
      exact ⟨rfl, holds.admits, ⟨fun _ => manifest, fun _ => marked⟩,
        fun early => absurd early (by simp [ordinal]), holds.lockObject⟩
    · intro _
      have within : (version session.versionId .commit).Within ids :=
        holds.admits
      rw [if_neg (by decide), relative_commit]
      apply safe_locate_bind valid holds
      apply safe_create_bind valid holds within fun absent => ⟨absent, manifest⟩
      intro _ marked
      have after : SessionConsistent ids location session
          (store.put (location.locate (.version session.versionId .commit))
            (s3.stored store (serde.marker.toVec ⟨session.versionId, session.runId⟩))) :=
        ⟨holds.dataset, holds.admits, holds.backed.put,
          fun early => absurd early (by simp [written]), holds.lockObject⟩
      apply wp_session_bind (wp_persistState marked after
        ⟨fun _ => Store.has_put.mpr (.inr manifest), fun _ => Store.has_put.mpr (.inl rfl)⟩
        (fun early => absurd early (by decide)))
      intro _ _ _ valid holds _ _
      exact safe_pure valid holds _
  · rw [if_pos written]
    exact safe_throw valid holds _

/-- Only a version with its marker is promoted. -/
lemma wp_promoteCurrent :
    Safe ids serde location s3 (fun _ => True) (promoteCurrent serde) session store := by
  rw [promoteCurrent, Safe, exec_get_bind, holds.dataset]
  apply safe_isVersionCommitted_bind valid holds
  · intro marked
    have manifest := valid.manifest_of_commit session.versionId holds.admits marked
    have within : current.Within ids := trivial
    rw [if_pos rfl]
    apply safe_locate_bind valid holds .current
    apply safe_replaceOrCreate_bind valid holds within
    · exact ⟨session.versionId, holds.admits, by simp, marked⟩
    · intro _ written
      refine Safe.weaken (wp_persistState written (holds.put within (by simp)) ?_ ?_)
        fun _ _ => trivial
      · exact ⟨fun _ => Store.has_put.mpr (.inr manifest), fun _ => Store.has_put.mpr (.inr marked)⟩
      · intro early
        exact absurd early (by decide)
  · intro _
    exact safe_throw valid holds _

lemma wp_releaseLock : Safe ids serde location s3 (fun _ => True) releaseLock session store := by
  rw [releaseLock, Safe, exec_get_bind]
  cases taken : session.lock with
  | none => exact safe_pure valid holds _
  | some lock =>
    have unlocked : SessionConsistent ids location { session with lock := none } store :=
      ⟨holds.dataset, holds.admits, holds.backed, holds.unmarked, nofun⟩
    rw [Method.exec_set_bind, wp_ofFallible, release]
    cases released : lock.released with
    | true =>
      rw [if_pos rfl]
      exact wp_done.mpr ⟨valid, unlocked, rfl, fun _ _ => trivial⟩
    | false =>
      rw [if_neg (by decide), holds.lockObject lock taken]
      apply wp_delete (preserves_refl valid)
      · intro _
        exact SessionPost.failed valid unlocked rfl
      · refine ⟨preserves_removeLock valid, ?_⟩
        refine ⟨(preserves_removeLock valid).1, ?_, rfl, fun _ _ => trivial⟩
        refine ⟨holds.dataset, holds.admits, holds.backed.removeLock holds.admits, ?_, nofun⟩
        intro early marked
        rw [has_remove_lock (.version session.versionId .commit) holds.admits (by simp)]
          at marked
        exact holds.unmarked early marked

lemma wp_commitWritten :
    Safe ids serde location s3 (fun _ => True) (commitWritten serde) session store := by
  rw [commitWritten, Safe, exec_get_bind]
  split
  · apply wp_session_bind (wp_commit valid holds)
    intro _ _ _ valid holds _ _
    exact safe_pure valid holds _
  · exact safe_pure valid holds _

variable {promote : Bool}

lemma wp_promoteWhen :
    Safe ids serde location s3 (fun _ => True) (promoteWhen serde promote) session store := by
  cases promote with
  | true => exact wp_promoteCurrent valid holds
  | false => exact safe_pure valid holds _

lemma wp_finish :
    Safe ids serde location s3 (fun _ => True) (finish serde promote) session store := by
  apply wp_session_bind (wp_commitWritten valid holds)
  intro _ _ _ valid holds _ _
  apply wp_session_bind (wp_promoteWhen valid holds)
  intro _ _ _ valid holds _ _
  exact wp_releaseLock valid holds

end

/-! ## Beginning a session -/

/-- A state read back by recovery is backed by the store. -/
def Recovered (location : S3Location) (store : Store Bytes) (versionId : String)
    (recovered : Option PublicationStateRecord) : Prop :=
  Backed location store versionId (stateAtBegin recovered) ∧
    ((stateAtBegin recovered).ordinal < manifestWritten.ordinal →
      ¬ store.Has (location.locate (.version versionId .commit)))

lemma wp_loadRecoveredState {versionId : String} (admits : ids.Admits versionId)
    (valid : Consistent ids serde location store) :
    (loadRecoveredState serde (.s3 location) versionId).run.wp s3.service
      (Preserves ids serde location)
      (fun result after => after = store ∧ ∀ recovered, result = .ok recovered →
        Recovered location store versionId recovered) store := by
  have unchanged := preserves_refl valid
  rw [loadRecoveredState, wp_bind]
  apply wp_isVersionCommitted unchanged
  · intro error
    exact ⟨rfl, nofun⟩
  · intro _ marked
    have manifest := valid.manifest_of_commit versionId admits marked
    have backed : ∀ state, Backed location store versionId state :=
      fun _ => ⟨fun _ => manifest, fun _ => marked⟩
    dsimp only
    rw [if_pos rfl, wp_bind]
    apply wp_readCurrentVersion unchanged
    intro result
    cases result with
    | error => exact ⟨rfl, nofun⟩
    | ok =>
      refine wp_done.mpr ⟨rfl, fun recovered returned => ?_⟩
      cases returned
      refine ⟨backed _, fun early => ?_⟩
      simp only [stateAtBegin] at early
      split at early <;> exact absurd early (by decide)
  · intro unmarked
    dsimp only
    rw [if_neg (by decide), relative_state, wp_bind]
    apply wp_locateObject
    · intro _
      exact ⟨rfl, nofun⟩
    · intro _
      dsimp only
      rw [wp_attempt_bind]
      apply wp_readJsonObject unchanged
      · intro _
        split
        · rename_i contradiction
          cases contradiction
        · refine wp_done.mpr ⟨rfl, fun recovered returned => ?_⟩
          cases returned
          exact ⟨⟨fun reached => absurd reached (by decide),
            fun reached => absurd reached (by decide)⟩, fun _ => unmarked⟩
        · exact wp_done.mpr ⟨rfl, nofun⟩
      · intro object record lookup decoded
        refine wp_done.mpr ⟨rfl, fun recovered returned => ?_⟩
        cases returned
        exact ⟨valid.backed_of_state versionId admits object record lookup decoded,
          fun _ => unmarked⟩

/-- What acquisition returns: the lock names its object and the run that took it. -/
def Locked (ids : VersionIds) (serde : SerdeJson Bytes) (location : S3Location) (runId : String)
    (result : Except PublicationError RemotePublicationLock) (store : Store Bytes) : Prop :=
  Consistent ids serde location store ∧ ∀ lock, result = .ok lock →
    lock.lockObject = location.locate .writerLock ∧ lock.versionId = runId

variable {runId : String}

lemma wp_reclaimOrReject (valid : Consistent ids serde location store) :
    (reclaimOrReject serde (location.locate .writerLock)
      ⟨runId, runId⟩).run.wp s3.service (Preserves ids serde location)
      (Locked ids serde location runId) store := by
  rw [reclaimOrReject, wp_bind]
  apply wp_readJsonObject (preserves_refl valid)
  · intro error
    exact ⟨valid, nofun⟩
  · intro _ _ _ _
    dsimp only
    split
    · exact wp_done.mpr ⟨valid, nofun⟩
    · rw [wp_bind]
      apply wp_delete (preserves_refl valid)
      · intro _
        exact ⟨valid, nofun⟩
      · have removed := preserves_removeLock valid
        refine ⟨removed, ?_⟩
        dsimp only
        rw [wp_bind]
        apply wp_create (preserves_refl removed.1)
        · intro _
          exact ⟨removed.1, nofun⟩
        · intro _
          have created := preserves_putLock removed.1 (s3.stored
            (store.remove (location.locate .writerLock)) (serde.lock.toVec ⟨runId, runId⟩))
          refine ⟨created, fun metadata => ?_⟩
          refine wp_done.mpr ⟨created.1, fun lock returned => ?_⟩
          cases returned
          exact ⟨rfl, rfl⟩

variable {capabilities : StorageCapabilities}

lemma wp_acquire (valid : Consistent ids serde location store) :
    (acquire serde capabilities (.s3 location) runId).run.wp s3.service
      (Preserves ids serde location) (Locked ids serde location runId) store := by
  rw [acquire]
  split
  · exact wp_done.mpr ⟨valid, nofun⟩
  · rw [wp_bind]
    change (locateObject (.s3 location) writerLock.relative).run.wp _ _ _ _
    apply wp_locateObject
    · intro _
      exact ⟨valid, nofun⟩
    · intro _
      dsimp only
      rw [wp_request_bind]
      intro _ _ answers
      rcases answers_create answers with ⟨_, rfl, rfl⟩ | ⟨rfl, _, rfl⟩
      · have created := preserves_putLock valid (s3.stored store (serde.lock.toVec ⟨runId, runId⟩))
        refine ⟨created, wp_done.mpr ⟨created.1, fun lock returned => ?_⟩⟩
        cases returned
        exact ⟨rfl, rfl⟩
      · refine ⟨preserves_refl valid, ?_⟩
        split
        · rename_i contradiction
          cases contradiction
        · exact wp_reclaimOrReject valid
        · exact wp_done.mpr ⟨valid, nofun⟩

/-- A session begins in a state that the store backs. -/
lemma wp_begin (admits : ids.Admits runId) (valid : Consistent ids serde location store) :
    (begin serde capabilities (.s3 location) runId).run.wp s3.service (Preserves ids serde location)
      (fun result after => Consistent ids serde location after ∧ ∀ session, result = .ok session →
        SessionConsistent ids location session after ∧ session.versionId = runId) store := by
  rw [begin, wp_bind]
  apply wp_mono _ (wp_acquire valid)
  intro result _ locked
  cases result with
  | error => exact ⟨locked.1, nofun⟩
  | ok lock =>
    obtain ⟨lockObject, version⟩ := locked.2 lock rfl
    dsimp only
    rw [version, wp_bind]
    apply wp_mono _ (wp_loadRecoveredState admits locked.1)
    intro result final loaded
    obtain ⟨same, recovered⟩ := loaded
    subst same
    cases result with
    | error => exact ⟨locked.1, nofun⟩
    | ok found =>
      obtain ⟨backed, unmarked⟩ := recovered found rfl
      have opened : SessionConsistent ids location
          ⟨.s3 location, runId, runId, stateAtBegin found, some lock⟩ final :=
        ⟨rfl, admits, backed, unmarked, fun other taken => by cases taken; exact lockObject⟩
      dsimp only
      split
      · rename_i preparing
        change Program.wp _ _ _ (Method.exec _ _ >>= _) _
        rw [Program.wp_bind]
        apply wp_mono _ (wp_persistState locked.1 opened
          (preparing ▸ backed) (preparing ▸ unmarked))
        intro outcome _ post
        rcases outcome with ⟨result, session⟩
        refine wp_done.mpr ⟨post.consistent, fun session returned => ?_⟩
        cases result with
        | error => cases returned
        | ok =>
          cases returned
          exact ⟨post.session, post.version⟩
      · refine wp_done.mpr ⟨locked.1, fun session returned => ?_⟩
        cases returned
        exact ⟨opened, rfl⟩

end RemotePublicationSession

end Parqonaut.Storage
