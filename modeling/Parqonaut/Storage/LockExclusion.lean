import Parqonaut.Effects.Interleaving
import Parqonaut.Storage.Calls

/-!
# Exclusion of the remote writer lock

Any number of processes acquire and release the writer lock of one dataset, each backend call being
a step. Two processes may use the same run id.

A delete of the lock object does not check that the object is still the one that was read or
created. The lock excludes other runs in every run in which no process deletes it while another
one holds it, and any step that breaks this condition can be completed to a violation.
-/

namespace Parqonaut.Storage

open Effects Machine Request

variable {Bytes Proc : Type}

/-- Where a process stands between two of its backend calls. -/
inductive LockPhase (Bytes : Type) where
  | idle
  | acquiring (request : Request Bytes) (next : request.Answer →
        Program (Request Bytes) Answer (Except PublicationError RemotePublicationLock))
  | holding (lock : RemotePublicationLock)
  | releasing (request : Request Bytes) (next : request.Answer →
        Program (Request Bytes) Answer (Except PublicationError Unit))
  | stopped

namespace LockPhase

/-- Phase of a process that has `rest` of its `acquire` left. -/
def ofAcquire : Program (Request Bytes) Answer
    (Except PublicationError RemotePublicationLock) → LockPhase Bytes
  | .done (.ok lock) => .holding lock
  | .done (.error _) => .stopped
  | .call request next => .acquiring request next

/-- Phase of a process that has `rest` of its `release` left. -/
def ofRelease : Program (Request Bytes) Answer (Except PublicationError Unit) → LockPhase Bytes
  | .done _ => .stopped
  | .call request next => .releasing request next

/-- `acquire` has returned the lock of `runId`, and `release` has not started. -/
def Holds (phase : LockPhase Bytes) (runId : String) : Prop :=
  ∃ lock, phase = .holding lock ∧ lock.record.runId = runId

/-- The next backend call is a delete. -/
def deletes : LockPhase Bytes → Bool
  | .acquiring (.deleteOwnedObject _) _ => true
  | .releasing (.deleteOwnedObject _) _ => true
  | _ => false

end LockPhase

/-- What can happen to a process. A failed call has no effect on the store. -/
inductive LockEvent where
  | start (runId : String)
  | served
  | failed (error : StorageError)
  | release
  | crash

open LockPhase RemotePublicationLock

/-- Processes that use the writer lock of the dataset at `location`. -/
def lockMachine (serde : SerdeJson Bytes) (s3 : S3Service Bytes) (location : S3Location) :
    Machine LockEvent (LockPhase Bytes) (Store Bytes) where
  step
    | .start runId, .idle, store =>
      some (ofAcquire (acquire serde .s3 (.s3 location) runId).run, store)
    | .served, .acquiring request next, store =>
      some (ofAcquire (next (s3.serve request store).1), (s3.serve request store).2)
    | .served, .releasing request next, store =>
      some (ofRelease (next (s3.serve request store).1), (s3.serve request store).2)
    | .failed error, .acquiring _ next, store =>
      if error.isFailure then some (ofAcquire (next (.error error)), store) else none
    | .failed error, .releasing _ next, store =>
      if error.isFailure then some (ofRelease (next (.error error)), store) else none
    | .release, .holding lock, store => some (ofRelease (release lock).run, store)
    | .crash, _, store => some (.stopped, store)
    | _, _, _ => none

/-- No process has started. -/
def idleProcesses (store : Store Bytes) : System Proc (LockPhase Bytes) (Store Bytes) where
  locals := fun _ => .idle
  shared := store

/-- All holders of the lock belong to one run. -/
def Exclusive (system : System Proc (LockPhase Bytes) (Store Bytes)) : Prop :=
  ∀ first second firstRun secondRun, (system.locals first).Holds firstRun →
    (system.locals second).Holds secondRun → firstRun = secondRun

/-- A process deletes the lock object only while no other process holds the lock. -/
def DeletesAlone (process : Proc) (event : LockEvent)
    (system : System Proc (LockPhase Bytes) (Store Bytes)) : Prop :=
  event = .served → (system.locals process).deletes = true →
    ∀ other, other ≠ process → ∀ runId, ¬ (system.locals other).Holds runId

section

variable {serde : SerdeJson Bytes} {s3 : S3Service Bytes} {location : S3Location}
  {store after : Store Bytes} {phase moved : LockPhase Bytes} {event : LockEvent}

/-! ## What the calls of a process can do -/

/-- Rest of `acquire` after its conditional create. -/
def afterCreate (serde : SerdeJson Bytes) (object : ObjectLocation) (record : WriterLockRecord) :
    Except StorageError ObjectMetadata →
      Program (Request Bytes) Answer (Except PublicationError RemotePublicationLock)
  | .ok _ => .done (.ok ⟨object, record, false⟩)
  | .error (.conflict _) => (reclaimOrReject serde object record).run
  | .error error => .done (.error (.storage error))

lemma acquire_run (runId : String) : (acquire serde .s3 (.s3 location) runId).run =
      .call (createLock serde (location.locate .writerLock) ⟨runId, runId⟩)
        (afterCreate serde (location.locate .writerLock) ⟨runId, runId⟩) := by
  have located : (locateObject (.s3 location) WRITER_LOCK_KEY : BackendM Bytes ObjectLocation) =
      pure (location.locate .writerLock) := locateObject_relative .writerLock rfl
  rw [acquire, located, pure_bind, StorageCapabilities.s3]
  change Program.call _ _ = Program.call _ _
  congr 1
  funext answer
  cases answer with
  | ok => rfl
  | error error => cases error <;> rfl

lemma run_backendCall_bind {α : Type} (request : Request Bytes)
    (cont : request.Result → BackendM Bytes α) :
    (backendCall request >>= cont).run = .call request (fun answer => match answer with
        | .ok result => (cont result).run
        | .error error => .done (.error (.storage error))) := by
  change Program.call _ _ = Program.call _ _
  congr 1
  funext answer
  cases answer <;> rfl

/-- The reclaim deletes the lock object and creates it again. -/
def reclaim (serde : SerdeJson Bytes) (object : ObjectLocation) (record : WriterLockRecord) :
    Program (Request Bytes) Answer (Except PublicationError RemotePublicationLock) :=
  .call (.deleteOwnedObject object) fun answer => match answer with
    | .error error => .done (.error (.storage error))
    | .ok _ => .call (createLock serde object record) fun answer => match answer with
        | .error error => .done (.error (.storage error))
        | .ok _ => .done (.ok ⟨object, record, false⟩)

/-- A reclaim follows only a read of the lock object. -/
lemma reclaimOrReject_run (serde : SerdeJson Bytes) (object : ObjectLocation)
    (record : WriterLockRecord) :
    ∃ next, (reclaimOrReject serde object record).run = .call (.readStream object) next ∧
      ∀ answer, next answer = reclaim serde object record ∨
        ∃ error, next answer = .done (.error error) := by
  rw [reclaimOrReject, readJsonObject, bind_assoc, run_backendCall_bind]
  refine ⟨_, rfl, ?_⟩
  intro answer
  cases answer with
  | error => exact .inr ⟨_, rfl⟩
  | ok bytes =>
    dsimp only
    cases serde.lock.fromSlice bytes with
    | error => exact .inr ⟨_, rfl⟩
    | ok existing =>
      rw [pure_bind]
      by_cases different : existing.runId ≠ record.runId
      · rw [if_pos different]
        exact .inr ⟨_, rfl⟩
      · rw [if_neg different, run_backendCall_bind, reclaim]
        left
        congr 1
        funext answer
        cases answer with
        | error => rfl
        | ok =>
          dsimp only
          rw [run_backendCall_bind]
          congr 1
          funext answer
          cases answer <;> rfl

/-- A request that `acquire` makes on the lock object. -/
def OnLock (object : ObjectLocation) : Request Bytes → Prop
  | .readStream target => target = object
  | .conditionalCreate target condition _ => target = object ∧ condition = .mustNotExist
  | .deleteOwnedObject target => target = object
  | _ => False

/-- Every call is one on the lock object, and the lock is returned only right after a conditional
create that succeeded. -/
def Acquires (object : ObjectLocation) : Program (Request Bytes) Answer
    (Except PublicationError RemotePublicationLock) → Prop
  | .done result => ∀ lock, result = .ok lock → lock.lockObject = object
  | .call request next =>
    OnLock object request ∧ ∀ answer, Acquires object (next answer) ∧
      ∀ lock, next answer = .done (.ok lock) →
        ∃ data, request = .conditionalCreate object .mustNotExist data ∧ answer.isOk

variable {object : ObjectLocation}

lemma acquires_throw {error : PublicationError} :
    Acquires object (.done (.error error) : Program (Request Bytes) Answer _) := by
  intro _ returned
  cases returned

lemma acquires_create {data : Bytes}
    {next : Except StorageError ObjectMetadata → Program (Request Bytes) Answer
      (Except PublicationError RemotePublicationLock)}
    (rest : ∀ answer, Acquires object (next answer))
    (fails : ∀ error lock, next (.error error) ≠ .done (.ok lock)) :
    Acquires object (.call (.conditionalCreate object .mustNotExist data) next) := by
  constructor
  · exact ⟨rfl, rfl⟩
  · intro answer
    refine ⟨rest answer, ?_⟩
    intro lock returned
    cases answer with
    | ok => exact ⟨data, rfl, rfl⟩
    | error error => exact absurd returned (fails error lock)

variable {record : WriterLockRecord}

lemma acquires_reclaim : Acquires object (reclaim serde object record) := by
  refine ⟨rfl, ?_⟩
  intro answer
  cases answer with
  | error => exact ⟨acquires_throw, fun lock returned => nomatch returned⟩
  | ok =>
    refine ⟨?_, fun lock returned => nomatch returned⟩
    apply acquires_create
    · intro answer
      cases answer with
      | error => exact acquires_throw
      | ok =>
        intro _ returned
        cases returned
        rfl
    · intro _ _ returned
      cases returned

lemma acquires_reclaimOrReject : Acquires object (reclaimOrReject serde object record).run := by
  obtain ⟨_, runs, outcomes⟩ := reclaimOrReject_run serde object record
  rw [runs]
  refine ⟨rfl, ?_⟩
  intro answer
  rcases outcomes answer with reclaims | ⟨_, fails⟩
  · rw [reclaims]
    refine ⟨acquires_reclaim, ?_⟩
    intro _ returned
    cases returned
  · rw [fails]
    refine ⟨acquires_throw, ?_⟩
    intro _ returned
    cases returned

variable {runId : String}

lemma acquires_acquire :
    Acquires (location.locate .writerLock) (acquire serde .s3 (.s3 location) runId).run := by
  rw [acquire_run]
  apply acquires_create
  · intro answer
    cases answer with
    | ok =>
      intro _ returned
      cases returned
      rfl
    | error error =>
      cases error <;> first
        | exact acquires_reclaimOrReject
        | exact acquires_throw
  · intro error _ returned
    cases error with
    | conflict =>
      obtain ⟨_, runs, _⟩ := reclaimOrReject_run serde (location.locate .writerLock)
        ⟨runId, runId⟩
      rw [afterCreate, runs] at returned
      cases returned
    | _ => cases returned

/-! ## What a step of a process can do -/

/-- A phase that a process of this dataset can be in. -/
def LockPhase.Proper (object : ObjectLocation) : LockPhase Bytes → Prop
  | .acquiring request next => Acquires object (.call request next)
  | .holding lock => lock.lockObject = object
  | .releasing request next =>
    request = .deleteOwnedObject object ∧ ∀ answer, ∃ result, next answer = .done result
  | _ => True

variable {rest : Program (Request Bytes) Answer _}

lemma proper_ofAcquire (acquires : Acquires object rest) : (ofAcquire rest).Proper object := by
  cases rest with
  | call => exact acquires
  | done result =>
    cases result with
    | ok lock => exact acquires lock rfl
    | error => trivial

lemma holds_ofAcquire (holds : (ofAcquire rest).Holds runId) : ∃ lock, rest = .done (.ok lock) := by
  obtain ⟨lock, same, _⟩ := holds
  cases rest with
  | call => cases same
  | done result =>
    cases result with
    | ok lock => exact ⟨lock, rfl⟩
    | error => cases same

lemma not_holds_ofRelease : ¬ (ofRelease rest).Holds runId := by
  intro holds
  obtain ⟨_, same, _⟩ := holds
  cases rest <;> cases same

lemma proper_release {lock : RemotePublicationLock} (proper : lock.lockObject = object) :
    (ofRelease (release lock : BackendM Bytes Unit).run).Proper object := by
  rw [release]
  cases lock.released with
  | true => trivial
  | false =>
    refine ⟨congrArg _ proper, ?_⟩
    intro answer
    cases answer with
    | ok => exact ⟨.ok (), rfl⟩
    | error error => exact ⟨.error (.storage error), rfl⟩

/-- A call of `acquire` that is served. -/
lemma served_acquiring {bucket key : String} {request : Request Bytes}
    {next : request.Answer → Program (Request Bytes) Answer _}
    (acquires : Acquires (.s3 bucket key) (.call request next)) :
    ((s3.serve request store).2 = store ∧
        ∀ runId, ¬ (ofAcquire (next (s3.serve request store).1)).Holds runId) ∨
      (¬ store.Has (.s3 bucket key) ∧ (s3.serve request store).2.Has (.s3 bucket key)) ∨
      ((acquiring request next).deletes = true ∧
        ∀ runId, ¬ (ofAcquire (next (s3.serve request store).1)).Holds runId) := by
  obtain ⟨onLock, returns⟩ := acquires
  have created : ∀ runId, (ofAcquire (next (s3.serve request store).1)).Holds runId →
      ∃ data, request = .conditionalCreate (.s3 bucket key) .mustNotExist data ∧
        (s3.serve request store).1.isOk := by
    intro runId holds
    obtain ⟨lock, returned⟩ := holds_ofAcquire holds
    exact (returns _).2 lock returned
  cases request with
  | list | head | conditionalReplace => exact onLock.elim
  | readStream target =>
    left
    constructor
    · rw [show target = .s3 bucket key from onLock]
      rfl
    · intro runId holds
      obtain ⟨data, same, _⟩ := created runId holds
      cases same
  | deleteOwnedObject =>
    right; right
    refine ⟨rfl, ?_⟩
    intro runId holds
    obtain ⟨data, same, _⟩ := created runId holds
    cases same
  | conditionalCreate _ _ data =>
    obtain ⟨rfl, rfl⟩ := onLock
    rcases answers_create (s3.service.answers_served (.conditionalCreate (.s3 bucket key)
      .mustNotExist data) store) with ⟨absent, _, writes⟩ | ⟨unchanged, error, fails⟩
    · right; left
      constructor
      · exact Store.not_has_iff.mpr absent
      · change (s3.service.serve _ store).2.Has _
        rw [writes]
        exact Store.has_put.mpr (.inl rfl)
    · left
      refine ⟨unchanged, ?_⟩
      intro runId holds
      obtain ⟨_, _, succeeded⟩ := created runId holds
      change (s3.service.serve _ store).1.isOk = true at succeeded
      rw [fails] at succeeded
      cases succeeded

/-- The effect of an event on the lock object: none, a create where nothing was, or a delete. Only
the create makes a holder. -/
lemma lockMachine_step (proper : phase.Proper (location.locate .writerLock))
    (steps : (lockMachine serde s3 location).step event phase store = some (moved, after)) :
    moved.Proper (location.locate .writerLock) ∧ ((after = store ∧ ∀ runId, ¬ moved.Holds runId) ∨
        (¬ store.Has (location.locate .writerLock) ∧ after.Has (location.locate .writerLock)) ∨
        (event = .served ∧ phase.deletes = true ∧ ∀ runId, ¬ moved.Holds runId)) := by
  cases event with
  | start runId =>
    cases phase with
    | idle =>
      cases steps
      refine ⟨proper_ofAcquire acquires_acquire, .inl ⟨rfl, ?_⟩⟩
      intro runId holds
      obtain ⟨lock, returned⟩ := holds_ofAcquire holds
      rw [acquire_run] at returned
      cases returned
    | _ => cases steps
  | served =>
    cases phase with
    | acquiring =>
      cases steps
      refine ⟨proper_ofAcquire (proper.2 _).1, ?_⟩
      rcases served_acquiring proper with same | created | deleted
      · exact .inl same
      · exact .inr (.inl created)
      · exact .inr (.inr ⟨rfl, deleted⟩)
    | releasing =>
      cases steps
      obtain ⟨rfl, ends⟩ := proper
      obtain ⟨_, returned⟩ := ends (s3.serve _ store).1
      rw [returned]
      exact ⟨trivial, .inr (.inr ⟨rfl, rfl, fun _ => not_holds_ofRelease⟩)⟩
    | _ => cases steps
  | failed error =>
    cases phase with
    | acquiring =>
      obtain ⟨_, ended⟩ := Option.ite_none_right_eq_some.mp steps
      cases ended
      refine ⟨proper_ofAcquire (proper.2 _).1, .inl ⟨rfl, ?_⟩⟩
      intro runId holds
      obtain ⟨lock, returned⟩ := holds_ofAcquire holds
      obtain ⟨_, _, succeeded⟩ := (proper.2 _).2 lock returned
      cases succeeded
    | releasing =>
      obtain ⟨_, ended⟩ := Option.ite_none_right_eq_some.mp steps
      cases ended
      obtain ⟨_, returned⟩ := proper.2 (.error error)
      rw [returned]
      exact ⟨trivial, .inl ⟨rfl, fun _ => not_holds_ofRelease⟩⟩
    | _ => cases steps
  | release =>
    cases phase with
    | holding =>
      cases steps
      exact ⟨proper_release proper, .inl ⟨rfl, fun _ => not_holds_ofRelease⟩⟩
    | _ => cases steps
  | crash =>
    have stops : ∀ runId, ¬ (stopped : LockPhase Bytes).Holds runId := by
      intro _ holds
      obtain ⟨_, same, _⟩ := holds
      cases same
    cases phase <;> cases steps <;> exact ⟨trivial, .inl ⟨rfl, stops⟩⟩

variable {system next last : System Proc (LockPhase Bytes) (Store Bytes)} {process : Proc}

/-! ## Runs -/

/-- At most one process holds the lock, and then the lock object is there. -/
structure LockHeldOnce (location : S3Location)
    (system : System Proc (LockPhase Bytes) (Store Bytes)) : Prop where
  present : ∀ process runId, (system.locals process).Holds runId →
    system.shared.Has (location.locate .writerLock)
  single : ∀ first second firstRun secondRun, (system.locals first).Holds firstRun →
    (system.locals second).Holds secondRun → first = second

/-- Every process is in a phase of this dataset's lock. -/
def AllProper (location : S3Location)
    (system : System Proc (LockPhase Bytes) (Store Bytes)) : Prop :=
  ∀ process, (system.locals process).Proper (location.locate .writerLock)

lemma LockHeldOnce.of_no_holder (none : ∀ process runId, ¬ (system.locals process).Holds runId) :
    LockHeldOnce location system where
  present := fun process runId holds => absurd holds (none process runId)
  single := fun first _ firstRun _ holds _ => absurd holds (none first firstRun)

variable [DecidableEq Proc]

lemma AllProper.act (proper : AllProper location system)
    (acts : (lockMachine serde s3 location).act process event system = some next) :
    AllProper location next := by
  obtain ⟨⟨_, _⟩, steps, rfl⟩ := act_eq_some.mp acts
  exact System.forall_move
    (fun _ (phase : LockPhase Bytes) => phase.Proper (location.locate .writerLock))
    (lockMachine_step (proper process) steps).1 (fun other _ => proper other)

lemma LockHeldOnce.act (once : LockHeldOnce location system)
    (proper : AllProper location system) (alone : DeletesAlone process event system)
    (acts : (lockMachine serde s3 location).act process event system = some next) :
    LockHeldOnce location next := by
  obtain ⟨⟨moved, after⟩, steps, rfl⟩ := act_eq_some.mp acts
  rcases (lockMachine_step (proper process) steps).2 with
    ⟨rfl, idle⟩ | ⟨absent, present⟩ | ⟨served, deletes, idle⟩
  · have kept : ∀ other runId, ((system.move process (moved, system.shared)).locals other).Holds
        runId → (system.locals other).Holds runId := by
      intro other runId
      exact System.forall_move (fun other (phase : LockPhase Bytes) =>
          phase.Holds runId → (system.locals other).Holds runId)
        (fun holds => absurd holds (idle runId)) (fun _ _ holds => holds) other
    constructor
    · intro other runId holds
      exact once.present other runId (kept other runId holds)
    · intro first second firstRun secondRun firstHolds secondHolds
      exact once.single first second firstRun secondRun (kept _ _ firstHolds) (kept _ _ secondHolds)
  · have mover : ∀ other runId, ((system.move process (moved, after)).locals other).Holds
        runId → other = process := by
      intro other runId holds
      by_contra different
      rw [System.move_of_ne different] at holds
      exact absent (once.present other runId holds)
    constructor
    · intro _ runId _
      exact present
    · intro first second firstRun secondRun firstHolds secondHolds
      rw [mover first firstRun firstHolds, mover second secondRun secondHolds]
  · apply LockHeldOnce.of_no_holder
    exact System.forall_move (fun _ (phase : LockPhase Bytes) => ∀ runId, ¬ phase.Holds runId)
      idle (alone served deletes)

variable {schedule : List (Proc × LockEvent)}

lemma allProper_of_run
    (runs : (lockMachine serde s3 location).run schedule (idleProcesses store) = some last) :
    AllProper location last := by
  apply run_invariant (AllProper location) _ _ (meets_true schedule _) runs
  · intro _ _ _ _ proper _ acts
    exact proper.act acts
  · intro _
    trivial

/-- Exclusion in every run in which no process deletes the lock object while another
process holds the lock. -/
lemma exclusive_of_meets
    (meets : (lockMachine serde s3 location).Meets DeletesAlone schedule (idleProcesses store))
    (runs : (lockMachine serde s3 location).run schedule (idleProcesses store) = some last) :
    Exclusive last := by
  have held : AllProper location last ∧ LockHeldOnce location last := by
    apply run_invariant
      (fun system => AllProper location system ∧ LockHeldOnce location system) _ _ meets runs
    · intro _ _ _ _ before alone acts
      exact ⟨before.1.act acts, before.2.act before.1 alone acts⟩
    · refine ⟨fun _ => trivial, LockHeldOnce.of_no_holder ?_⟩
      intro _ _ holds
      obtain ⟨_, same, _⟩ := holds
      cases same
  intro first second firstRun secondRun firstHolds secondHolds
  have same := held.2.single first second firstRun secondRun firstHolds secondHolds
  rw [same] at firstHolds
  obtain ⟨_, phase, rfl⟩ := firstHolds
  obtain ⟨_, phase', rfl⟩ := secondHolds
  rw [phase] at phase'
  cases phase'
  rfl

/-! ## A delete beside a holder -/

lemma step_delete (serde : SerdeJson Bytes) (s3 : S3Service Bytes) (store : Store Bytes)
    (proper : phase.Proper (location.locate .writerLock)) (deletes : phase.deletes = true) :
    ∃ moved, (lockMachine serde s3 location).step .served phase store =
      some (moved, store.remove (location.locate .writerLock)) := by
  cases phase with
  | acquiring request =>
    cases request with
    | deleteOwnedObject target =>
      obtain ⟨onLock, _⟩ := proper
      cases (onLock : target = _)
      exact ⟨_, rfl⟩
    | _ => cases deletes
  | releasing =>
    obtain ⟨rfl, _⟩ := proper
    exact ⟨_, rfl⟩
  | _ => cases deletes

lemma solo_acquire (serde : SerdeJson Bytes) (s3 : S3Service Bytes)
    (absent : store.objects (location.locate .writerLock) = none) (runId : String) :
    ∃ after, (lockMachine serde s3 location).solo [.start runId, .served] .idle store =
      some (.holding ⟨location.locate .writerLock, ⟨runId, runId⟩, false⟩, after) := by
  let request := createLock serde (location.locate .writerLock) ⟨runId, runId⟩
  have served : s3.serve request store =
      s3.accept store (location.locate .writerLock) (serde.lock.toVec ⟨runId, runId⟩) :=
    serve_create_none absent
  refine ⟨(s3.serve request store).2, ?_⟩
  change ((lockMachine serde s3 location).step .served (ofAcquire _) store).bind _ = _
  rw [acquire_run]
  change some (ofAcquire (afterCreate serde _ _ (s3.serve request store).1),
    (s3.serve request store).2) = _
  rw [served]
  rfl

/-- A delete of the lock object while another process holds it can be followed by the `acquire` of
a further run. -/
lemma violation_of_delete {other fresh : Proc}
    (proper : AllProper location system) (deletes : (system.locals process).deletes = true)
    (different : other ≠ process) (holds : (system.locals other).Holds runId)
    (idle : system.locals fresh = .idle) :
    ∃ more last, (lockMachine serde s3 location).run ((process, .served) :: more) system =
      some last ∧ ¬ Exclusive last := by
  obtain ⟨moved, steps⟩ := step_delete serde s3 system.shared (proper process) deletes
  let deleted := system.move process (moved, system.shared.remove (location.locate .writerLock))
  have acts : (lockMachine serde s3 location).act process .served system = some deleted :=
    act_of_step steps
  have freshMover : fresh ≠ process := by
    rintro rfl
    rw [idle] at deletes
    cases deletes
  have freshHolder : other ≠ fresh := by
    rintro rfl
    obtain ⟨_, held, _⟩ := holds
    rw [idle] at held
    cases held
  have waiting : deleted.locals fresh = .idle := by
    rw [System.move_of_ne freshMover]
    exact idle
  obtain ⟨_, acquired⟩ := solo_acquire serde s3
    (Store.remove_objects_self system.shared (location.locate .writerLock)) (runId ++ "'")
  rw [← waiting] at acquired
  refine ⟨_, _, run_cons.mpr ⟨deleted, acts, run_solo acquired⟩, ?_⟩
  intro exclusive
  have same : runId = runId ++ "'" := by
    apply exclusive other fresh
    · rw [System.move_of_ne freshHolder, System.move_of_ne different]
      exact holds
    · rw [System.move_self]
      exact ⟨_, rfl, rfl⟩
  have lengths := congrArg String.length same
  simp at lengths

/-- The lock excludes other runs in every run in which each delete of the lock object happens while
no other process holds it. From any reached state, a delete that breaks this condition leads to
two holders of different runs as soon as a new process acquires the lock. -/
theorem writer_lock_exclusion (serde : SerdeJson Bytes) (s3 : S3Service Bytes)
    (location : S3Location) (store : Store Bytes) :
    (∀ (schedule : List (Proc × LockEvent)) last,
      (lockMachine serde s3 location).Meets DeletesAlone schedule (idleProcesses store) →
      (lockMachine serde s3 location).run schedule (idleProcesses store) = some last →
        Exclusive last) ∧
    ∀ (schedule : List (Proc × LockEvent)) system process fresh,
      (lockMachine serde s3 location).run schedule (idleProcesses store) = some system →
      ¬ DeletesAlone process .served system → system.locals fresh = .idle →
        ∃ more last, (lockMachine serde s3 location).run ((process, .served) :: more) system =
          some last ∧ ¬ Exclusive last := by
  constructor
  · intro _ _ meets runs
    exact exclusive_of_meets meets runs
  · intro _ _ _ _ runs unguarded idle
    simp only [DeletesAlone, true_implies, not_forall, not_not] at unguarded
    obtain ⟨deletes, _, different, _, holds⟩ := unguarded
    exact violation_of_delete (allProper_of_run runs) deletes different holds idle

end

namespace Reference

/-- Process 0 holds the lock of run `A`; process 1 resumes `A` and reads it. Process 0 releases it
and process 2 acquires it for run `B`; process 1 deletes that object and creates its own. -/
def overtakenReclaim : List (Nat × LockEvent) :=
  [(0, .start "A"), (0, .served), (1, .start "A"), (1, .served), (1, .served),
    (0, .release), (0, .served), (2, .start "B"), (2, .served), (1, .served), (1, .served)]

theorem overtakenReclaim_not_exclusive :
    ∃ last, (lockMachine serde s3 location).run overtakenReclaim (idleProcesses empty) =
      some last ∧ ¬ Exclusive last := by
  refine ⟨_, rfl, ?_⟩
  intro exclusive
  have same := exclusive 1 2 "A" "B" ⟨_, rfl, rfl⟩ ⟨_, rfl, rfl⟩
  exact absurd same (by decide)

/-- Run `A` acquires and releases the lock, then run `B` acquires it. -/
def handover : List (Nat × LockEvent) :=
  [(0, .start "A"), (0, .served), (0, .release), (0, .served), (1, .start "B"), (1, .served)]

lemma handover_deletesAlone :
    (lockMachine serde s3 location).Meets DeletesAlone handover (idleProcesses empty) := by
  apply meets_cons rfl (by intro event; cases event)
  apply meets_cons rfl (by intro event deletes; cases deletes)
  apply meets_cons rfl (by intro event; cases event)
  apply meets_cons rfl
  · intro _ _ _ different _ holds
    obtain ⟨_, held, _⟩ := holds
    simp only [System.move, Function.update_of_ne different, idleProcesses] at held
    cases held
  apply meets_cons rfl (by intro event; cases event)
  apply meets_cons rfl (by intro _ deletes; cases deletes)
  trivial

theorem writer_lock_exclusion_handover :
    (∃ last, (lockMachine serde s3 location).run handover (idleProcesses empty) = some last ∧
      (last.locals 1).Holds "B" ∧ Exclusive last) ∧
    ∃ system, (lockMachine serde s3 location).run (overtakenReclaim.take 9)
        (idleProcesses empty) = some system ∧
      ∃ more last, (lockMachine serde s3 location).run ((1, .served) :: more) system =
        some last ∧ ¬ Exclusive last := by
  have exclusion := @writer_lock_exclusion _ Nat _ serde s3 location empty
  constructor
  · exact ⟨_, rfl, ⟨_, rfl, rfl⟩, exclusion.1 handover _ handover_deletesAlone rfl⟩
  · refine ⟨_, rfl, exclusion.2 (overtakenReclaim.take 9) _ 1 3 rfl ?_ rfl⟩
    intro alone
    exact alone rfl rfl 2 (by decide) "B" ⟨_, rfl, rfl⟩

end Reference

end Parqonaut.Storage
