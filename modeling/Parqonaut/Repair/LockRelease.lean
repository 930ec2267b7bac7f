import Parqonaut.Effects.Always
import Parqonaut.Repair.Plan
import Parqonaut.Storage.FaultFree

/-!
# The writer lock after a failed publication

`publish_work_dir` takes the writer lock when its session begins and releases it as the last step
of `finish`. Every error in between is returned by `?` and leaves the lock object in the store.
-/

namespace Parqonaut.Repair

open Effects Rust Storage Fallible RemotePublicationLock

section

variable {Bytes : Type}

/-- The lock object of the dataset names the run as its holder. -/
def LockHeldBy (serde : SerdeJson Bytes) (location : S3Location) (runId : String)
    (store : Store Bytes) : Prop :=
  ∃ object record, store.objects (location.locate .writerLock) = some object ∧
    serde.lock.fromSlice object.data = .ok record ∧ record.runId = runId

/-- The requests that a backend which accepts deletes does not fail. -/
def isDelete : Request Bytes → Prop
  | .deleteOwnedObject _ => True
  | _ => False

/-- A store whose calls may fail, deletes excepted. -/
def acceptingDeletes (s3 : S3Service Bytes) :
    Service (Request Bytes) Request.Answer (Store Bytes) :=
  s3.service.sparing isDelete

variable {serde : SerdeJson Bytes} {s3 : S3Service Bytes} {location : S3Location}
  {capabilities : StorageCapabilities} {runId : String} {store after : Store Bytes}

lemma locateObject_lock : (locateObject (.s3 location) WRITER_LOCK_KEY :
    BackendM Bytes ObjectLocation) = pure (location.locate .writerLock) := by
  change locateObject (.s3 location) PublicationPath.writerLock.relative = _
  rw [locateObject, S3Location.objectAt_relative, if_neg (by decide)]

/-! ## A lock that cannot be taken -/

/-- The lock belongs to someone else, or the backend has no locks. -/
structure LockRefused (serde : SerdeJson Bytes) (capabilities : StorageCapabilities)
    (location : S3Location) (runId : String) (store : Store Bytes) : Prop where
  other : ¬ LockHeldBy serde location runId store
  taken : store.Has (location.locate .writerLock) ∨ capabilities.conditionalCreate = false

/-- The outcome of a call that fails and changes nothing. -/
def Rejected {α ε : Type} (store : Store Bytes) (result : Except ε α) (after : Store Bytes) : Prop :=
  (∃ error, result = .error error) ∧ after = store

lemma reclaimOrReject_refused (other : ¬ LockHeldBy serde location runId store) :
    (reclaimOrReject serde (location.locate .writerLock)
      ⟨runId, runId⟩).run.wp s3.service (fun _ _ => True) (Rejected store) store := by
  rw [reclaimOrReject, wp_bind]
  apply wp_readJsonObject trivial
  · intro error
    exact ⟨⟨error, rfl⟩, rfl⟩
  · intro object existing lookup decoded
    have different : existing.runId ≠ runId := fun same =>
      other ⟨object, existing, lookup, decoded, same⟩
    dsimp only
    rw [if_pos different]
    exact Program.wp_done.mpr ⟨⟨_, rfl⟩, rfl⟩

lemma acquire_refused (refused : LockRefused serde capabilities location runId store) :
    (acquire serde capabilities (.s3 location) runId).run.wp
      s3.service (fun _ _ => True) (Rejected store) store := by
  rw [acquire, locateObject_lock, pure_bind]
  split
  · exact Program.wp_done.mpr ⟨⟨_, rfl⟩, rfl⟩
  · rename_i creates
    have present : store.Has (location.locate .writerLock) :=
      refused.taken.resolve_right (by simpa using creates)
    apply wp_request_bind.mpr
    intro _ _ answers
    rcases answers_create answers with ⟨absent, _⟩ | ⟨rfl, error, rfl⟩
    · exact absurd present (Store.not_has_iff.mpr absent)
    · refine ⟨trivial, ?_⟩
      cases error with
      | conflict => exact reclaimOrReject_refused refused.other
      | _ => exact Program.wp_done.mpr ⟨⟨_, rfl⟩, rfl⟩

variable {work : List (WorkFile Bytes)} {manifest : Bytes}

/-- A call that cannot take the lock leaves the store as it is. -/
lemma publishWorkDir_refused
    {error : RepairError} (refused : LockRefused serde capabilities location runId store)
    (fails : Fails s3.service
      (publishWorkDir serde capabilities (.s3 location) work runId manifest) store error after) :
    after = store := by
  have rejected : ∀ {result mid}, Program.Ends s3.service (acquire serde
      capabilities (.s3 location) runId).run store result mid → Rejected store result mid :=
    fun ends => ends.post (acquire_refused refused)
  rw [publishWorkDir, fails_bind] at fails
  rcases fails with begins | ⟨_, _, begins, -⟩
  · obtain ⟨_, begins, -⟩ := fails_mapErr.mp begins
    rcases fails_bind.mp begins with acquires | ⟨_, _, acquires, -⟩
    · exact (rejected acquires).2
    · obtain ⟨⟨_, never⟩, -⟩ := rejected acquires
      cases never
  · obtain ⟨_, _, acquires, -⟩ :=
      returns_bind.mp (returns_mapErr.mp begins)
    obtain ⟨⟨_, never⟩, -⟩ := rejected acquires
    cases never

/-! ## A lock that is kept -/

/-- A call that fails at its first request, or at once, leaves the lock with its holder. -/
lemma fails_before_create : ∃ error, Fails (acceptingDeletes s3)
      (publishWorkDir serde capabilities (.s3 location) work runId manifest) store error store := by
  have acquires : ∃ error, Fails (acceptingDeletes s3)
      (acquire serde capabilities (.s3 location) runId) store error store := by
    rw [acquire, locateObject_lock, pure_bind]
    split
    · exact ⟨_, fails_throw.mpr ⟨rfl, rfl⟩⟩
    · refine ⟨.storage (.unavailable ""), fails_request_bind.mpr
        ⟨.error (.unavailable ""), store, .inr ⟨⟨id, _, rfl, rfl⟩, rfl⟩, ?_⟩⟩
      exact fails_throw.mpr ⟨rfl, rfl⟩
  obtain ⟨error, acquires⟩ := acquires
  exact ⟨publicationErr error, fails_bind.mpr (.inl
    (fails_mapErr.mpr ⟨error, fails_bind.mpr (.inl acquires), rfl⟩))⟩

/-- The first request of a session that has the lock can fail. -/
lemma loadRecoveredState_fails :
    ∃ error, Fails (acceptingDeletes s3) (loadRecoveredState serde (.s3 location) runId)
      store error store := by
  have checks : ∃ error, Fails (acceptingDeletes s3)
      (isVersionCommitted (.s3 location) runId) store error store := by
    rw [isVersionCommitted, PublicationPath.relative_commit, locateObject,
      S3Location.objectAt_relative]
    by_cases dots : Str.contains (PublicationPath.version runId .commit).relative ".."
    · rw [if_pos dots]
      exact ⟨_, fails_bind.mpr (.inl (fails_throw.mpr ⟨rfl, rfl⟩))⟩
    · refine ⟨.storage (.unavailable ""), ?_⟩
      rw [if_neg dots, pure_bind, fails_request_bind]
      refine ⟨.error (.unavailable ""), store, .inr ⟨⟨id, _, rfl, rfl⟩, rfl⟩, ?_⟩
      exact fails_throw.mpr ⟨rfl, rfl⟩
  obtain ⟨error, checks⟩ := checks
  exact ⟨error, fails_bind.mpr (.inl checks)⟩

/-- A call that takes the free lock can fail right after it. -/
lemma fails_after_create (creates : capabilities.conditionalCreate = true)
    (free : ¬ store.Has (location.locate .writerLock)) :
    ∃ error, Fails (acceptingDeletes s3)
      (publishWorkDir serde capabilities (.s3 location) work runId manifest) store error
      (store.put (location.locate .writerLock)
        (s3.stored store (serde.lock.toVec ⟨runId, runId⟩))) := by
  have acquires : Returns (acceptingDeletes s3)
      (acquire serde capabilities (.s3 location) runId) store
      ⟨location.locate .writerLock, ⟨runId, runId⟩, false⟩ (store.put (location.locate .writerLock)
        (s3.stored store (serde.lock.toVec ⟨runId, runId⟩))) := by
    rw [acquire, locateObject_lock, pure_bind, if_neg (by simp [creates]), returns_request_bind]
    refine ⟨_, _, .inl (serve_create_none (Store.not_has_iff.mp free)).symm, ?_⟩
    exact returns_value
  obtain ⟨error, fails⟩ := loadRecoveredState_fails
  exact ⟨publicationErr error, fails_bind.mpr (.inl (fails_mapErr.mpr
    ⟨error, fails_bind.mpr (.inr ⟨_, _, acquires, fails_bind.mpr (.inl fails)⟩), rfl⟩))⟩

/-- Every failed call of `publish_work_dir` leaves the writer lock without the run as its holder
exactly when the lock cannot be taken: another run holds it, or there is no conditional create and
the lock is not the run's already. -/
theorem failed_publication_frees_lock_iff (serde : SerdeJson Bytes) (s3 : S3Service Bytes)
    (capabilities : StorageCapabilities) (location : S3Location) (work : List (WorkFile Bytes))
    (runId : String) (manifest : Bytes) (store : Store Bytes) :
    (∀ error after, Fallible.Fails (acceptingDeletes s3)
        (publishWorkDir serde capabilities (.s3 location) work runId manifest) store error after →
      ¬ LockHeldBy serde location runId after) ↔
      LockRefused serde capabilities location runId store := by
  constructor
  · intro frees
    constructor
    · intro held
      obtain ⟨error, fails⟩ := fails_before_create
      exact frees error store fails held
    · by_contra takable
      obtain ⟨free, creates⟩ := not_or.mp takable
      obtain ⟨error, fails⟩ := fails_after_create (Bool.of_not_eq_false creates) free
      exact frees error _ fails ⟨_, ⟨runId, runId⟩, Store.put_objects_self _ _ _,
        serde.lock.fromSlice_toVec _, rfl⟩
  · intro refused _ _ fails held
    rw [publishWorkDir_refused refused (Program.Ends.of_sparing fails)] at held
    exact refused.other held

end

/-! ## A retry that keeps the lock -/

namespace Reference

open Storage.Reference

/-- What a run left that died after its first data object, when its lock is gone. -/
def halfPublished : Store Payload :=
  empty.put (location.locate (.version "r" (.data "a.parquet"))) ⟨.contents "rows", none, none⟩

/-- The retry fails at the data object that is already there. No backend call fails, and yet the
lock stays with the run. -/
theorem failed_retry_keeps_lock : ∃ error after, Fallible.Fails (acceptingDeletes s3)
        (publishWorkDir serde .s3 (.s3 location) [⟨"a.parquet", .contents "rows"⟩] "r"
          (.contents "manifest")) halfPublished error after ∧
      LockHeldBy serde location "r" after ∧
      (Fallible.eval s3.service (acquire serde .s3 (.s3 location) "s")
        after).1 = .error (.lockHeld "r") := by
  have fails := @exists_fails_of_eval _ _ _ _ _ (acceptingDeletes s3) halfPublished
    (publishWorkDir serde .s3 (.s3 location) [⟨"a.parquet", .contents "rows"⟩] "r"
      (.contents "manifest"))
    (fun after => (after.objects (location.locate .writerLock)).any
        (fun object => object.data = .lock ⟨"r", "r"⟩) &&
      decide ((Fallible.eval s3.service (acquire serde .s3 (.s3 location) "s")
        after).1 = .error (.lockHeld "r")))
    (by decide +kernel)
  obtain ⟨error, after, fails, kept⟩ := fails
  obtain ⟨held, refused⟩ := (Bool.and_eq_true _ _).mp kept
  obtain ⟨object, lookup, isLock⟩ := (Option.any_eq_true _ _).mp held
  refine ⟨error, after, fails, ⟨object, ⟨"r", "r"⟩, lookup, ?_, rfl⟩, of_decide_eq_true refused⟩
  rw [of_decide_eq_true isLock]
  rfl

end Reference

/-!
# A publication that returns has promoted its version

Whatever calls fail and whatever the store held before: when `publish_work_dir` returns a
value, `CURRENT` names the run.
-/

open RemotePublicationSession Method Program

variable {Bytes : Type} {serde : SerdeJson Bytes} {s3 : S3Service Bytes} {location : S3Location}
  {runId : String} {session : RemotePublicationSession} {store : Store Bytes}

/-! ## Session stays with its run -/

variable {next : PublicationState}

lemma keepsAt_persistState (opened : SessionOf location runId session) :
    KeepsAt (SessionOf location runId) (persistState serde next) session := by
  apply keepsAt_get_bind
  apply keepsAt_bind (keepsAt_ofFallible opened)
  intro _ _ opened'
  apply keepsAt_bind (keepsAt_ofFallible opened')
  intro _ _ _
  exact keepsAt_set (opened.withState next)

lemma keepsAt_advanceTo (opened : SessionOf location runId session) :
    KeepsAt (SessionOf location runId) (advanceTo serde next) session := by
  apply keepsAt_get_bind
  split
  · exact keepsAt_pure opened
  · split
    · exact keepsAt_throw opened
    · exact keepsAt_persistState opened

lemma keepsAt_enterUploading (opened : SessionOf location runId session) :
    KeepsAt (SessionOf location runId) (enterUploading serde) session := by
  apply keepsAt_get_bind
  split
  · exact keepsAt_throw opened
  · split
    · exact keepsAt_advanceTo opened
    · split
      · exact keepsAt_throw opened
      · exact keepsAt_pure opened

variable {data : Bytes}

lemma keepsAt_putVersionObject {relative : String} (opened : SessionOf location runId session) :
    KeepsAt (SessionOf location runId) (putVersionObject serde relative data) session := by
  apply keepsAt_bind (keepsAt_enterUploading opened)
  intro _ _ opened
  apply keepsAt_get_bind
  apply keepsAt_bind (keepsAt_ofFallible opened)
  intro _ _ opened
  exact keepsAt_ofFallible opened

lemma keepsAt_uploadObject {rel : String} (opened : SessionOf location runId session) :
    KeepsAt (SessionOf location runId) (uploadObject serde rel data) session := by
  apply keepsAt_bind (keepsAt_mapErr (keepsAt_putVersionObject opened))
  intro _ _ opened
  exact keepsAt_pure opened

variable {work : List (WorkFile Bytes)}

section

variable (opened : SessionOf location runId session)
include opened

lemma keepsAt_uploadFiles :
    KeepsAt (SessionOf location runId) (uploadFiles serde work) session := by
  induction work generalizing session with
  | nil => exact keepsAt_pure opened
  | cons _ _ ih =>
    apply keepsAt_bind (keepsAt_uploadObject opened)
    intro _ _ opened
    apply keepsAt_bind (ih opened)
    intro _ _ opened
    exact keepsAt_pure opened

lemma keepsAt_writeManifest {manifest : PublicationManifest} :
    KeepsAt (SessionOf location runId) (writeManifest serde manifest) session := by
  apply keepsAt_get_bind
  split
  · exact keepsAt_throw opened
  · apply keepsAt_bind (keepsAt_ofFallible opened)
    intro _ _ opened
    apply keepsAt_bind (keepsAt_ofFallible opened)
    intro _ _ opened
    exact keepsAt_persistState opened

lemma keepsAt_commit : KeepsAt (SessionOf location runId) (commit serde) session := by
  apply keepsAt_get_bind
  split
  · exact keepsAt_throw opened
  · apply keepsAt_bind (keepsAt_ofFallible opened)
    intro committed next opened'
    split
    · apply keepsAt_bind (keepsAt_set (opened.withState .committed))
      intro _ _ opened
      exact keepsAt_pure opened
    · apply keepsAt_bind (keepsAt_ofFallible opened')
      intro _ _ opened
      apply keepsAt_bind (keepsAt_ofFallible opened)
      intro _ _ opened
      apply keepsAt_bind (keepsAt_persistState opened)
      intro _ _ opened
      exact keepsAt_pure opened

lemma keepsAt_commitWritten : KeepsAt (SessionOf location runId) (commitWritten serde) session := by
  apply keepsAt_get_bind
  split
  · apply keepsAt_bind (keepsAt_commit opened)
    intro _ _ opened
    exact keepsAt_pure opened
  · exact keepsAt_pure opened

lemma keepsAt_checkUri : KeepsAt (SessionOf location runId)
      (checkUri (.s3 location) runId : PublishM Bytes String) session := by
  rw [checkUri]
  split
  · exact keepsAt_pure opened
  · exact keepsAt_throw opened

end

/-! ## Beginning -/

/-- The lock of a run on a dataset. -/
def LockOf (location : S3Location) (runId : String) (lock : RemotePublicationLock) : Prop :=
  lock.lockObject = location.locate .writerLock ∧ lock.versionId = runId

lemma promises_reclaimOrReject : Promises (LockOf location runId) (reclaimOrReject serde
      (location.locate .writerLock) ⟨runId, runId⟩) := by
  apply asks_bind promises_true
  intro _ _
  split
  · exact asks_throw
  · apply asks_bind promises_true
    intro _ _
    apply asks_bind promises_true
    intro _ _
    exact asks_pure ⟨rfl, rfl⟩

variable {capabilities : StorageCapabilities}

lemma promises_acquire : Promises (LockOf location runId)
      (acquire serde capabilities (.s3 location) runId) := by
  rw [acquire, locateObject_lock, pure_bind]
  split
  · exact asks_throw
  · apply asks_request_bind trivial
    intro answer
    cases answer with
    | ok => exact asks_pure ⟨rfl, rfl⟩
    | error error =>
      cases error with
      | conflict => exact promises_reclaimOrReject
      | _ => exact asks_throw

lemma promises_begin : Promises (SessionOf location runId)
      (RemotePublicationSession.begin serde capabilities (.s3 location) runId) := by
  have acquires := @promises_acquire Bytes serde location runId capabilities
  unfold RemotePublicationSession.begin
  apply asks_bind acquires
  rintro lock ⟨lockObject, version⟩
  apply asks_bind promises_true
  intro recovered _
  have opened : SessionOf location runId
      ⟨.s3 location, lock.versionId, runId, stateAtBegin recovered, some lock⟩ := by
    refine ⟨rfl, version, ?_⟩
    rintro _ ⟨⟩
    exact lockObject
  by_cases fresh : stateAtBegin recovered = .preparing
  · rw [if_pos fresh]
    apply Program.asks_bind
    refine (keepsAt_persistState opened).mono ?_
    rintro ⟨result, _⟩ kept
    apply asks_done.mpr
    intro _ returned
    cases result with
    | ok =>
      cases returned
      exact kept
    | error => cases returned
  · rw [if_neg fresh]
    exact asks_pure opened

/-! ## Finishing -/

/-- A method whose value means that `CURRENT` names the run. -/
def Promoted {ε α : Type} (serde : SerdeJson Bytes) (location : S3Location) (runId : String)
    (outcome : Except ε α × RemotePublicationSession) (after : Store Bytes) : Prop :=
  ∀ value, outcome.1 = .ok value →
    Names serde location runId after ∧ SessionOf location runId outcome.2

lemma promoted_error {ε α : Type} {error : ε} :
    Promoted serde location runId ((.error error : Except ε α), session) store := nofun

section

variable (opened : SessionOf location runId session)
include opened

lemma wp_persistState_promoted (names : Names serde location runId store) :
    ((persistState serde next).exec session).wp s3.service (fun _ _ => True)
      (Promoted serde location runId) store := by
  rw [persistState, exec_get_bind, opened.dataset, opened.version,
    PublicationPath.relative_state, Method.wp_bind, wp_ofFallible]
  apply wp_locateObject (fun _ => promoted_error)
  intro _
  dsimp only
  rw [Method.wp_bind, wp_ofFallible]
  apply wp_replaceOrCreate trivial (fun _ => promoted_error)
  refine ⟨trivial, fun metadata => ?_⟩
  dsimp only
  rw [exec_set, wp_done]
  exact fun _ _ => ⟨names.putState, rfl, rfl, opened.lockObject⟩

lemma wp_promoteCurrent_promoted :
    ((promoteCurrent serde).exec session).wp s3.service (fun _ _ => True)
      (Promoted serde location runId) store := by
  rw [promoteCurrent, exec_get_bind, opened.dataset, opened.version, Method.wp_bind, wp_ofFallible]
  apply wp_isVersionCommitted trivial (fun _ => promoted_error)
  · intro _ _
    dsimp only
    rw [if_pos rfl, Method.wp_bind, wp_ofFallible]
    change (locateObject (.s3 location) PublicationPath.current.relative).run.wp _ _ _ _
    apply wp_locateObject (fun _ => promoted_error)
    intro _
    dsimp only
    rw [Method.wp_bind, wp_ofFallible]
    apply wp_replaceOrCreate trivial (fun _ => promoted_error)
    exact ⟨trivial, fun metadata => wp_persistState_promoted opened Names.putCurrent⟩
  · intro _
    dsimp only
    rw [if_neg (by decide), exec_throw, wp_done]
    exact promoted_error

lemma wp_releaseLock_promoted (names : Names serde location runId store) :
    (releaseLock.exec session).wp s3.service (fun _ _ => True)
      (Promoted serde location runId) store := by
  have unlocked : SessionOf location runId { session with lock := none } :=
    ⟨opened.dataset, opened.version, nofun⟩
  rw [releaseLock, exec_get_bind]
  cases taken : session.lock with
  | none => exact wp_done.mpr fun _ _ => ⟨names, opened⟩
  | some lock =>
    rw [exec_set_bind, wp_ofFallible, RemotePublicationLock.release]
    cases released : lock.released with
    | true =>
      rw [if_pos rfl]
      exact wp_done.mpr fun _ _ => ⟨names, unlocked⟩
    | false =>
      rw [if_neg (by decide), opened.lockObject lock taken]
      apply wp_delete trivial (fun _ => promoted_error)
      exact ⟨trivial, fun _ _ => ⟨names.removeLock, unlocked⟩⟩

lemma wp_finish_promoted : ((finish serde true).exec session).wp s3.service (fun _ _ => True)
      (Promoted serde location runId) store := by
  apply (keepsAt_commitWritten opened).wp_bind (fun _ _ _ => promoted_error)
  intro _ _ _ opened
  rw [Method.wp_bind]
  refine wp_mono ?_ (wp_promoteCurrent_promoted opened)
  rintro ⟨result, _⟩ _ promoted
  cases result with
  | error => exact promoted_error
  | ok value =>
    obtain ⟨names, opened⟩ := promoted value rfl
    exact wp_releaseLock_promoted opened names

end

/-! ## Publication -/

variable {manifest : Bytes}

lemma wp_publishSession_promoted (opened : SessionOf location runId session) :
    ((publishSession serde (.s3 location) work runId manifest).exec session).wp s3.service
      (fun _ _ => True) (Promoted serde location runId) store := by
  apply (keepsAt_uploadFiles opened).wp_bind (fun _ _ _ => promoted_error)
  intro _ next after opened
  apply (keepsAt_uploadObject opened).wp_bind (fun _ _ _ => promoted_error)
  intro _ next after opened
  apply (keepsAt_mapErr (keepsAt_advanceTo opened)).wp_bind (fun _ _ _ => promoted_error)
  intro _ next after opened
  apply (keepsAt_mapErr (keepsAt_advanceTo opened)).wp_bind (fun _ _ _ => promoted_error)
  intro _ next after opened
  apply (keepsAt_mapErr (keepsAt_writeManifest opened)).wp_bind (fun _ _ _ => promoted_error)
  intro _ _ _ opened
  apply (keepsAt_checkUri opened).wp_bind (fun _ _ _ => promoted_error)
  intro _ _ _ opened
  rw [Method.wp_bind, Method.wp_mapErr]
  refine wp_mono ?_ (wp_finish_promoted opened)
  rintro ⟨result, _⟩ _ promoted
  cases result with
  | error => exact promoted_error
  | ok value => exact wp_done.mpr fun _ _ => promoted value rfl

/-- A publication that returns leaves `CURRENT` naming its run, whichever calls failed on the way.
-/
lemma publishWorkDir_promotes {published : String × String} {after : Store Bytes}
    (returns : Returns s3.service
      (publishWorkDir serde capabilities (.s3 location) work runId manifest) store published
      after) :
    Names serde location runId after := by
  rw [publishWorkDir, returns_bind] at returns
  obtain ⟨session, begun, began, rest⟩ := returns
  have begins := @promises_begin Bytes serde location runId capabilities
  have opened := begins.of_returns (returns_mapErr.mp began)
  have promotes : (callOn session
      (publishSession serde (.s3 location) work runId manifest)).run.wp s3.service (fun _ _ => True)
        (fun result after => ∀ value, result = .ok value → Names serde location runId after)
        begun := by
    apply wp_callOn.mpr
    refine wp_mono ?_ (wp_publishSession_promoted opened)
    intro _ _ promoted value returned
    exact (promoted value returned).1
  exact Ends.post rest promotes published rfl

end Parqonaut.Repair
