import Parqonaut.Storage.SessionSafety

/-!
# Publication is safe at every crash point

Any number of sessions run on one dataset, one after another, with their operations in any order;
each may be stopped between two backend calls and see any call fail. Every store that this brings
about is consistent, and what has been committed stays.
-/

namespace Parqonaut.Storage

open Effects Fallible

variable {Bytes : Type}

/-- A call that a client makes on its session. -/
inductive SessionOp (Bytes : Type) where
  | putVersionObject (relative : String) (data : Bytes)
  | markUploaded
  | markVerified
  | writeManifest (manifest : PublicationManifest)
  | commit
  | promoteCurrent
  | finish (promote : Bool)
  | abandon

/-- Run a method and keep the session, whatever the method returned. -/
def keepSession {α : Type} (method : SessionM Bytes α) (session : RemotePublicationSession) :
    Program (Request Bytes) Request.Answer (Option RemotePublicationSession) :=
  method.exec session >>= fun outcome => .done (some outcome.2)

/-- Run a method that consumes the session. -/
def consumeSession {α : Type} (method : SessionM Bytes α) (session : RemotePublicationSession) :
    Program (Request Bytes) Request.Answer (Option RemotePublicationSession) :=
  method.exec session >>= fun _ => .done none

namespace SessionOp

open RemotePublicationSession

def program (serde : SerdeJson Bytes) (session : RemotePublicationSession) : SessionOp Bytes →
    Program (Request Bytes) Request.Answer (Option RemotePublicationSession)
  | .putVersionObject relative data =>
    keepSession (RemotePublicationSession.putVersionObject serde relative data) session
  | .markUploaded => keepSession (RemotePublicationSession.markUploaded serde) session
  | .markVerified => keepSession (RemotePublicationSession.markVerified serde) session
  | .writeManifest manifest =>
    keepSession (RemotePublicationSession.writeManifest serde manifest) session
  | .commit => keepSession (RemotePublicationSession.commit serde) session
  | .promoteCurrent => keepSession (RemotePublicationSession.promoteCurrent serde) session
  | .finish promote => consumeSession (RemotePublicationSession.finish serde promote) session
  | .abandon => consumeSession RemotePublicationSession.abandon session

end SessionOp

/-- Open a session for a run. -/
def openSession (serde : SerdeJson Bytes) (location : S3Location) (runId : String) :
    Program (Request Bytes) Request.Answer (Option RemotePublicationSession) :=
  (RemotePublicationSession.begin serde .s3 (.s3 location) runId).run >>=
    fun result => .done result.toOption

/-- Writers of one dataset, one session at a time. -/
def publisher (serde : SerdeJson Bytes) (location : S3Location) :
    Client (Request Bytes) Request.Answer RemotePublicationSession where
  Opens := fun prog => ∃ runId, runId ≠ "" ∧ SegmentId runId ∧
    prog = openSession serde location runId
  Uses := fun session prog => ∃ op : SessionOp Bytes, prog = op.program serde session

section

variable {ids : VersionIds} {serde : SerdeJson Bytes} {location : S3Location} {s3 : S3Service Bytes}
  {store : Store Bytes} {session : RemotePublicationSession} {α : Type}
  {reached : PublicationState → Prop}

open RemotePublicationSession

/-- What a program of the publisher leaves behind. -/
private abbrev HandlePost (ids : VersionIds) (serde : SerdeJson Bytes) (location : S3Location)
    (result : Option RemotePublicationSession) (after : Store Bytes) : Prop :=
  Consistent ids serde location after ∧ ∀ next, result = some next →
    SessionConsistent ids location next after

variable {method : SessionM Bytes α}

private lemma wp_keepSession (safe : Safe ids serde location s3 reached method session store) :
    (keepSession method session).wp s3.service (Preserves ids serde location)
      (HandlePost ids serde location) store := by
  rw [keepSession, Program.wp_bind]
  apply Program.wp_mono _ safe
  intro _ _ post
  refine Program.wp_done.mpr ⟨post.consistent, fun next kept => ?_⟩
  cases kept
  exact post.session

private lemma wp_consumeSession (safe : Safe ids serde location s3 reached method session store) :
    (consumeSession method session).wp s3.service (Preserves ids serde location)
      (HandlePost ids serde location) store := by
  rw [consumeSession, Program.wp_bind]
  apply Program.wp_mono _ safe
  intro _ _ post
  exact Program.wp_done.mpr ⟨post.consistent, nofun⟩

/-- Every operation of a session keeps the dataset and the session consistent. -/
lemma wp_sessionOp (op : SessionOp Bytes) (valid : Consistent ids serde location store)
    (holds : SessionConsistent ids location session store) :
    (op.program serde session).wp s3.service (Preserves ids serde location)
      (HandlePost ids serde location) store := by
  cases op with
  | putVersionObject =>
    exact wp_keepSession (Program.wp_mono (fun _ _ post => post.1)
      (wp_putVersionObject valid holds))
  | markUploaded | markVerified => exact wp_keepSession (wp_advanceTo valid holds (by decide))
  | writeManifest => exact wp_keepSession (wp_writeManifest valid holds)
  | commit => exact wp_keepSession (wp_commit valid holds)
  | promoteCurrent => exact wp_keepSession (wp_promoteCurrent valid holds)
  | finish => exact wp_consumeSession (wp_finish valid holds)
  | abandon => exact wp_consumeSession (wp_releaseLock valid holds)

lemma publisher_contract :
    (publisher serde location).Contract s3.service (Consistent .segments serde location)
      (SessionConsistent .segments location) (Preserves .segments serde location) where
  unchanged := fun _ valid => preserves_refl valid
  preserved := fun _ _ preserves => preserves.1
  opens := by
    intro prog opens store valid
    obtain ⟨_, _, segment, rfl⟩ := opens
    rw [openSession, Program.wp_bind]
    apply Program.wp_mono _ (wp_begin segment valid)
    intro result _ begun
    refine Program.wp_done.mpr ⟨begun.1, fun session opened => ?_⟩
    cases result with
    | error => cases opened
    | ok =>
      cases opened
      exact (begun.2 _ rfl).1
  uses := by
    intro _ _ uses _ valid holds
    obtain ⟨op, rfl⟩ := uses
    exact wp_sessionOp op valid holds

/-! ## Recovery and display agree -/

variable (serde location s3 store)

private lemma eval_committed (versionId : String) : ∃ result after, eval s3.service
        (isVersionCommitted (.s3 location) versionId) store = (result, after) ∧
      after = store ∧ (result = .ok false →
        ¬ store.Has (location.locate (.version versionId .commit))) := by
  apply eval_of_wp
  apply wp_isVersionCommitted trivial
  · intro _
    exact ⟨rfl, nofun⟩
  · intro _ _
    exact ⟨rfl, nofun⟩
  · intro unmarked
    exact ⟨rfl, fun _ => unmarked⟩

private lemma eval_located (path : PublicationPath) : ∃ result after, eval s3.service
        (locateObject (.s3 location) path.relative) store = (result, after) ∧
      after = store ∧ ∀ object, result = .ok object → object = location.locate path := by
  apply eval_of_wp
  apply wp_locateObject
  · intro _
    exact ⟨rfl, nofun⟩
  · intro _
    refine ⟨rfl, fun object returned => ?_⟩
    cases returned
    rfl

private lemma eval_stateRecord (versionId : String) :
    ∃ result after, eval s3.service (readJsonObject serde.state
        (location.locate (.version versionId .state))) store = (result, after) ∧
      ∀ record, result = .ok record → ∃ object,
        store.objects (location.locate (.version versionId .state)) = some object ∧
        serde.state.fromSlice object.data = .ok record := by
  apply eval_of_wp
  apply wp_readJsonObject trivial
  · intro _
    exact nofun
  · intro object _ lookup decoded _ returned
    cases returned
    exact ⟨object, lookup, decoded⟩

variable {serde location s3 store}

/-- The state that `begin` recovers is the state that is displayed. -/
lemma recovered_eq_observed {versionId : String}
    (valid : Consistent ids serde location store) (admits : ids.Admits versionId) :
    (eval s3.service (loadRecoveredState serde (.s3 location) versionId) store).1.map
      (Option.map PublicationStateRecord.state) =
    (eval s3.service (observedState serde (.s3 location) versionId) store).1 := by
  obtain ⟨result, after, checked, same, unmarked⟩ :=
    eval_committed location s3 store versionId
  subst same
  rw [loadRecoveredState, observedState, eval_bind, eval_bind, checked]
  cases result with
  | error => rfl
  | ok marked =>
    cases marked with
    | true =>
      dsimp only
      rw [if_pos rfl, if_pos rfl, eval_bind, eval_bind]
      rcases eval s3.service (readCurrentVersion serde (.s3 location)) after
        with ⟨result, final⟩
      cases result with
      | error => rfl
      | ok =>
        dsimp only
        split <;> rfl
    | false =>
      dsimp only
      obtain ⟨place, next, located, same, addressed⟩ :=
        eval_located location s3 after (.version versionId .state)
      subst same
      rw [if_neg (by decide), if_neg (by decide), PublicationPath.relative_state,
        eval_bind, eval_bind, located]
      cases place with
      | error => rfl
      | ok object =>
        have found := addressed object rfl
        subst found
        obtain ⟨result, _, read, decoded⟩ :=
          eval_stateRecord serde location s3 next versionId
        dsimp only
        rw [eval_attempt_bind, eval_attempt_bind, read]
        cases result with
        | error =>
          dsimp only
          split
          · rename_i contradiction
            cases contradiction
          · rfl
          · rfl
        | ok record =>
          obtain ⟨object, lookup, parsed⟩ := decoded record rfl
          have backed :=
            valid.backed_of_state versionId admits object record lookup parsed
          dsimp only
          rw [if_neg (fun reached => unmarked rfl (backed.commit reached))]
          rfl

/-! ## Every reachable store -/

abbrev PublisherPhase (Bytes : Type) : Type :=
  Client.Phase (Request Bytes) Request.Answer RemotePublicationSession

variable {initial : Store Bytes} {config : PublisherPhase Bytes × Store Bytes}

lemma publisher_phaseInv (unpublished : Unpublished location initial)
    (reaches : (publisher serde location).Reaches s3.service (.idle, initial) config) :
    Client.PhaseInv s3.service (Consistent .segments serde location)
      (SessionConsistent .segments location)
      (Preserves .segments serde location) config := by
  have atRest : Client.PhaseInv s3.service (Consistent .segments serde location)
      (SessionConsistent .segments location) (Preserves .segments serde location) (.idle, initial) :=
    unpublished.consistent
  exact publisher_contract.reaches atRest reaches

/-- Between two points of an execution nothing committed is touched. -/
lemma publisher_keeps (unpublished : Unpublished location initial)
    {later : PublisherPhase Bytes × Store Bytes}
    (reaches : (publisher serde location).Reaches s3.service (.idle, initial) config)
    (continues : (publisher serde location).Reaches s3.service config later) :
    Keeps .segments location config.2 later.2 :=
  publisher_contract.relates (Keeps .segments location) Keeps.refl Keeps.trans
    (fun _ _ preserves => preserves.2) (publisher_phaseInv unpublished reaches) continues

theorem publication_safety (serde : SerdeJson Bytes) (location : S3Location)
    (s3 : S3Service Bytes) (initial : Store Bytes) (unpublished : Unpublished location initial)
    (phase : PublisherPhase Bytes) (store : Store Bytes)
    (reaches : (publisher serde location).Reaches s3.service (.idle, initial) (phase, store)) :
    (∀ versionId, SegmentId versionId → store.Has (location.locate (.version versionId .commit)) →
      store.Has (location.locate (.version versionId .manifest))) ∧
    (∀ object, store.objects (location.locate .current) = some object →
      ∃ versionId, SegmentId versionId ∧ serde.current.fromSlice object.data = .ok ⟨versionId⟩ ∧
        store.Has (location.locate (.version versionId .commit))) ∧
    (∀ versionId, SegmentId versionId → (∀ object record,
        store.objects (location.locate (.version versionId .state)) = some object →
        serde.state.fromSlice object.data = .ok record →
        record.state = .committed ∨ record.state = .current →
        store.Has (location.locate (.version versionId .commit))) ∧
      (eval s3.service (loadRecoveredState serde (.s3 location) versionId) store).1.map
        (Option.map PublicationStateRecord.state) =
      (eval s3.service (observedState serde (.s3 location) versionId) store).1) ∧
    (∀ laterPhase later,
      (publisher serde location).Reaches s3.service (phase, store) (laterPhase, later) →
      ∀ versionId, SegmentId versionId → (∀ object,
          store.objects (location.locate (.version versionId .commit)) = some object →
          later.objects (location.locate (.version versionId .commit)) = some object) ∧
        (∀ object, store.objects (location.locate (.version versionId .manifest)) = some object →
          later.objects (location.locate (.version versionId .manifest)) = some object) ∧
        (store.Has (location.locate (.version versionId .commit)) → ∀ key,
          later.objects (location.locate (.version versionId (.data key))) =
            store.objects (location.locate (.version versionId (.data key))))) := by
  have consistent : Consistent .segments serde location store :=
    (publisher_phaseInv unpublished reaches).state
  refine ⟨consistent.manifest_of_commit, consistent.commit_of_current, ?_, ?_⟩
  · intro versionId segment
    constructor
    · intro object record lookup decoded recorded
      apply (consistent.backed_of_state versionId segment object record lookup decoded).commit
      rcases recorded with committed | current
      · rw [committed]
      · rw [current]
        decide
    · exact recovered_eq_observed consistent segment
  · intro _ _ continues versionId segment
    have keeps := publisher_keeps unpublished reaches continues
    exact ⟨keeps.commit versionId segment, keeps.manifest versionId segment,
      keeps.data versionId segment⟩

/-- Run operations on a session one after another, without faults. -/
def runOps (serde : SerdeJson Bytes) (s3 : S3Service Bytes) :
    List (SessionOp Bytes) → Option RemotePublicationSession × Store Bytes →
    Option RemotePublicationSession × Store Bytes
  | [], state => state
  | _ :: _, (none, store) => (none, store)
  | op :: rest, (some session, store) =>
    runOps serde s3 rest ((op.program serde session).run s3.service store)

lemma reaches_runOps (ops : List (SessionOp Bytes))
    (handle : Option RemotePublicationSession) (store : Store Bytes) :
    (publisher serde location).Reaches s3.service (.returned handle, store)
      (.returned (runOps serde s3 ops (handle, store)).1,
        (runOps serde s3 ops (handle, store)).2) := by
  induction ops generalizing handle store with
  | nil => exact .refl
  | cons op _ ih =>
    cases handle with
    | none => exact .refl
    | some session =>
      have used : (publisher serde location).Uses session (op.program serde session) :=
        ⟨op, rfl⟩
      have started : (publisher serde location).Step s3.service
          (.holding session, store) (.running (op.program serde session), store) :=
        .uses used
      exact .head started ((Client.reaches_run _ _ _ _).trans (ih _ _))

/-- A whole session without faults. -/
def runSession (serde : SerdeJson Bytes) (s3 : S3Service Bytes) (location : S3Location)
    (runId : String) (ops : List (SessionOp Bytes)) (store : Store Bytes) :
    Option RemotePublicationSession × Store Bytes :=
  runOps serde s3 ops ((openSession serde location runId).run s3.service store)

lemma reaches_runSession (runId : String) (nonempty : runId ≠ "")
    (segment : SegmentId runId) (ops : List (SessionOp Bytes)) (store : Store Bytes) :
    (publisher serde location).Reaches s3.service (.idle, store)
      (.returned (runSession serde s3 location runId ops store).1,
        (runSession serde s3 location runId ops store).2) := by
  have opened : (publisher serde location).Step s3.service (.idle, store)
      (.running (openSession serde location runId), store) :=
    .opens ⟨runId, nonempty, segment, rfl⟩
  exact .head opened ((Client.reaches_run _ _ _ _).trans (reaches_runOps ops _ _))

end

namespace Reference

/-- A complete publication of one file. -/
def publishOps : List (SessionOp Payload) :=
  [.putVersionObject "part-000.parquet" (.contents "rows"), .markUploaded, .markVerified,
    .writeManifest ⟨1, "r", "r", []⟩, .finish true]

theorem publication_safety_published : (runSession serde s3 location "r" publishOps empty).2.Has
        (location.locate (.version "r" .commit)) ∧
      (runSession serde s3 location "r" publishOps empty).2.Has
        (location.locate (.version "r" .manifest)) := by
  have marked : (runSession serde s3 location "r" publishOps empty).2.Has
      (location.locate (.version "r" .commit)) := by decide +kernel
  have safe := publication_safety serde location s3 empty (fun _ => rfl) _ _
    (reaches_runSession "r" (by decide) (by decide) publishOps empty)
  exact ⟨marked, safe.1 "r" (by decide) marked⟩

end Reference

end Parqonaut.Storage
