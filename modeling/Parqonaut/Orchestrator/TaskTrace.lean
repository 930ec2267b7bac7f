import Parqonaut.Effects.Always
import Parqonaut.Orchestrator.Executor

/-!
# What a dataset task does to the journal

A task runs between the steps of others, so what it does is stated about its requests. An observer
notes which datasets it has written to or attempted, and whether it has recorded a success.
Whatever the answers are, a task touches its own dataset only, records nothing after a success, and
makes an attempt unless the run is cancelled.
-/

namespace Parqonaut.Orchestrator

open Effects Repair Fallible
open Program (wp_done wp_mono)

/-! ## Quiet programs -/

/-- Requests that touch neither the journal nor the record of attempts. -/
def TaskRequest.isQuiet : TaskRequest → Bool
  | .upsert _ | .attempt _ => false
  | .now | .isCancelled | .cancel | .countCompleted | .dataset _ => true

section

variable {Req Lock : Type} {Resp : Req → Type} {α β ε : Type}
  {outside : Outside Req Resp Lock} {dataset : DatasetPlan}
  {source output : Storage.DatasetLocation} {runId : String}

def QuietRequest : TaskReq Req → Prop
  | .inl request => request.isQuiet = true
  | .inr _ => True

/-- Whatever the answers are, the program makes quiet requests only. -/
abbrev Quiet (prog : TaskM Resp α) : Prop := prog.Asks QuietRequest fun _ => True

variable {prog : TaskM Resp α}

lemma Quiet.bind {next : α → TaskM Resp β} (first : Quiet prog)
    (rest : ∀ value, Quiet (next value)) : Quiet (prog >>= next) :=
  Program.asks_bind (first.mono fun value _ => rest value)

lemma quiet_done {value : α} : Quiet (.done value : TaskM Resp α) :=
  Program.asks_done.mpr trivial

lemma quiet_tryOutside {prog : Fallible Req Resp ε α} : Quiet (tryOutside prog) :=
  Program.asks_inr (Program.always_of_forall fun _ => trivial)

lemma quiet_callOutside_bind {convert : ε → DatasetFailure} {prog : Fallible Req Resp ε α}
    {next : α → DatasetM Resp β} (rest : ∀ value, Quiet (next value).run) :
    Quiet (callOutside convert prog >>= next).run := by
  refine Quiet.bind quiet_tryOutside fun result => ?_
  cases result with
  | error => exact quiet_done
  | ok value => exact rest value

lemma quiet_verifyFingerprint : Quiet (verifyFingerprint outside source dataset).run := by
  refine quiet_callOutside_bind fun current => ?_
  split <;> exact quiet_done

lemma quiet_acquireOutputLock : Quiet (acquireOutputLock outside source output runId).run := by
  unfold acquireOutputLock
  split
  · exact quiet_done
  · exact quiet_callOutside_bind fun _ => quiet_done

lemma quiet_releaseOutputLock {lock : Option Lock} :
    Quiet (releaseOutputLock outside lock output) := by
  cases lock with
  | none => exact quiet_done
  | some => exact quiet_tryOutside.bind fun _ => quiet_done

lemma quiet_observedPublished : Quiet (observedPublished outside output runId) := by
  cases output with
  | localDir => exact quiet_done
  | s3 =>
    refine quiet_tryOutside.bind fun result => ?_
    split <;> exact quiet_done

lemma quiet_executeRepair {executor : RepairExecutor} :
    Quiet (executeRepair outside executor dataset source output runId).run := by
  unfold executeRepair
  split
  all_goals
    refine quiet_callOutside_bind fun scan => Quiet.bind ?_ fun executed => ?_
    · exact quiet_tryOutside.bind fun _ => quiet_done
    · cases executed with
      | error => exact quiet_done
      | ok executed => rcases executed with (_ | _) | _ <;> exact quiet_done

lemma quiet_countSucceeded {config : BatchExecutorConfig} {outcome : DatasetExecutionOutcome} :
    Quiet (countSucceeded config outcome : TaskM Resp Unit) := by
  unfold countSucceeded
  split
  · refine Quiet.bind (Program.asks_call.mpr ⟨rfl, fun _ => quiet_done⟩) fun completed => ?_
    split
    · exact Program.asks_call.mpr ⟨rfl, fun _ => quiet_done⟩
    · exact quiet_done
  · exact quiet_done

/-- A program that makes quiet requests only, for a service that does not note them. -/
lemma Quiet.wp {State : Type} {service : Service (TaskReq Req) (TaskResp Resp) State}
    {rel : State → State → Prop} {state : State}
    {post : α → State → Prop} (quiet : Quiet prog) (refl : rel state state)
    (unnoted : ∀ request reply after, QuietRequest request →
      service.Answers request state reply after → after = state)
    (ended : ∀ value, post value state) : prog.wp service rel post state := by
  induction prog with
  | done value => exact wp_done.mpr (ended value)
  | call request _ ih =>
    obtain ⟨asked, rest⟩ := Program.asks_call.mp quiet
    apply Program.wp_call.mpr
    intro reply after answers
    obtain rfl := unnoted request reply after asked answers
    exact ⟨refl, ih reply (rest reply)⟩

/-! ## Observer -/

/-- What an observer has seen of a task. -/
structure TaskTrace where
  touched : List String
  attempted : List String
  settled : Bool

namespace TaskTrace

def start : TaskTrace := ⟨[], [], false⟩

/-- A record was written. -/
def wrote (trace : TaskTrace) (id : String) (state : DatasetState) : TaskTrace where
  touched := id :: trace.touched
  attempted := trace.attempted
  settled := trace.settled || decide (state = .succeeded)

/-- An attempt began. -/
def began (trace : TaskTrace) (id : String) : TaskTrace where
  touched := id :: trace.touched
  attempted := id :: trace.attempted
  settled := trace.settled

end TaskTrace

/-- Observer as a service. Any answer is possible, but a task is told of a cancellation only if
`mayCancel`. -/
def traceService (mayCancel : Bool) : Service TaskRequest TaskRequest.Answer TaskTrace where
  serve
    | .now, trace => ("", trace)
    | .isCancelled, trace => (false, trace)
    | .cancel, trace => ((), trace)
    | .countCompleted, trace => (0, trace)
    | .dataset _, trace => (.ok none, trace)
    | .upsert record, trace => (.ok (), trace.wrote record.datasetId record.state)
    | .attempt id, trace => ((), trace.began id)
  faulty
    | .now, _ => True
    | .isCancelled, _ => mayCancel = true
    | .cancel, _ => True
    | .countCompleted, _ => True
    | .dataset _, _ => True
    | .upsert _, answer => ∃ error, answer = .error error
    | .attempt _, _ => False

/-- The steps of the task of a dataset: it touches its dataset only, and nothing once
it has recorded a success. -/
def OwnSteps (id : String) (before after : TaskTrace × Unit) : Prop :=
  (∀ other ∈ after.1.touched, other ∈ before.1.touched ∨ other = id) ∧
    (before.1.settled = true → after.1 = before.1)

lemma OwnSteps.refl {id : String} {trace : TaskTrace} {before after : Unit} :
    OwnSteps id (trace, before) (trace, after) :=
  ⟨fun _ => .inl, fun _ => rfl⟩

variable {mayCancel : Bool} {answer : (request : Req) → Resp request} {id : String}

/-- Observer of a task that makes requests of both kinds. -/
abbrev observer (mayCancel : Bool) (answer : (request : Req) → Resp request) :
    Service (TaskReq Req) (TaskResp Resp) (TaskTrace × Unit) :=
  (traceService mayCancel).both (Service.demonic answer)

variable {trace : TaskTrace}

/-! ## Requests -/

variable {request : TaskRequest} {post : β → TaskTrace × Unit → Prop}

variable {next : request.Answer → TaskM Resp β}

lemma wp_ask_bind :
    (ask request >>= next).wp (observer mayCancel answer) (OwnSteps id) post (trace, ()) ↔
      ∀ reply after, (traceService mayCancel).Answers request trace reply after →
        OwnSteps id (trace, ()) (after, ()) ∧
          (next reply).wp (observer mayCancel answer) (OwnSteps id) post (after, ()) := by
  change (@Program.call (TaskReq Req) (TaskResp Resp) β (.inl request) next).wp _ _ _ _ ↔ _
  rw [Program.wp_call]
  constructor
  · intro holds reply after answers
    exact holds reply (after, ()) (Service.answers_inl.mpr ⟨answers, rfl⟩)
  · rintro holds reply ⟨after, ⟨⟩⟩ answers
    exact holds reply after (Service.answers_inl.mp answers).1

lemma same_of_quiet {reply : request.Answer} {after : TaskTrace} (quiet : request.isQuiet = true)
    (answers : (traceService mayCancel).Answers request trace reply after) : after = trace := by
  rcases answers with served | ⟨-, same⟩
  · cases request <;> first | exact congrArg Prod.snd served | cases quiet
  · exact same

lemma wp_quiet_bind (quiet : request.isQuiet = true)
    (rest : ∀ reply, (next reply).wp (observer mayCancel answer) (OwnSteps id) post (trace, ())) :
    (ask request >>= next).wp (observer mayCancel answer) (OwnSteps id) post (trace, ()) := by
  apply wp_ask_bind.mpr
  intro reply _ answers
  cases same_of_quiet quiet answers
  exact ⟨.refl, rest reply⟩

lemma wp_isCancelled_bind {next : Bool → TaskM Resp β}
    (live : (next false).wp (observer mayCancel answer) (OwnSteps id) post (trace, ()))
    (cancelled : mayCancel = true →
      (next true).wp (observer mayCancel answer) (OwnSteps id) post (trace, ())) :
    (ask .isCancelled >>= next).wp (observer mayCancel answer) (OwnSteps id) post (trace, ()) := by
  apply wp_ask_bind.mpr
  rintro reply _ (served | ⟨may, rfl⟩)
  · cases served
    exact ⟨.refl, live⟩
  · refine ⟨.refl, ?_⟩
    cases reply with
    | false => exact live
    | true => exact cancelled may

lemma wp_quiet {post : α → TaskTrace × Unit → Prop}
    (quiet : Quiet prog) (ended : ∀ result, post result (trace, ())) :
    prog.wp (observer mayCancel answer) (OwnSteps id) post (trace, ()) := by
  refine quiet.wp .refl ?_ ended
  rintro (_ | _) _ ⟨_, ⟨⟩⟩ asked answers
  · exact congrArg (·, ()) (same_of_quiet asked (Service.answers_inl.mp answers).1)
  · exact congrArg (·, ()) (Service.answers_inr.mp answers).2

/-- The attempts are those seen so far, and no success has been recorded. -/
def Unsettled (trace : TaskTrace) (now : TaskTrace × Unit) : Prop :=
  now.1.attempted = trace.attempted ∧ now.1.settled = false

/-- The attempts are those seen so far, and only an attempt that succeeds has recorded a
success. -/
def SettledOnSuccess (trace : TaskTrace) (result : Except DatasetFailure α)
    (now : TaskTrace × Unit) : Prop :=
  now.1.attempted = trace.attempted ∧ ∀ failure, result = .error failure → now.1.settled = false

lemma Unsettled.onSuccess {now : TaskTrace × Unit} {result : Except DatasetFailure α}
    (unsettled : Unsettled trace now) : SettledOnSuccess trace result now :=
  ⟨unsettled.1, fun _ _ => unsettled.2⟩

/-- The task has made an attempt, unless it was told that the run is cancelled. -/
def Attempted (mayCancel : Bool) (id : String) (now : TaskTrace × Unit) : Prop :=
  mayCancel = false → id ∈ now.1.attempted

/-- The program writes about one dataset only and attempts it. -/
abbrev Attempts (mayCancel : Bool) (answer : (request : Req) → Resp request) (id : String)
    (prog : TaskM Resp α) (trace : TaskTrace) : Prop :=
  prog.wp (observer mayCancel answer) (OwnSteps id) (fun _ => Attempted mayCancel id) (trace, ())

variable {state : DatasetState} (unsettled : trace.settled = false)

include unsettled

lemma OwnSteps.touch {after : TaskTrace} (touches : after.touched = id :: trace.touched) :
    OwnSteps id (trace, ()) (after, ()) := by
  refine ⟨?_, fun settled => absurd (unsettled.symm.trans settled) nofun⟩
  intro _ touched
  rcases List.mem_cons.mp (touches ▸ touched) with rfl | earlier
  · exact .inr rfl
  · exact .inl earlier

variable {attempts : Nat} {sourceFingerprint errorMessage startedAt completedAt : Option String}
  {errorClass : Option FailureClass}

lemma wp_upsertRecord {post : Unit → TaskTrace × Unit → Prop}
    (failed : post () (trace, ())) (written : post () (trace.wrote dataset.datasetId state, ())) :
    (upsertRecord dataset state attempts sourceFingerprint errorClass errorMessage startedAt
      completedAt).wp (observer mayCancel answer) (OwnSteps dataset.datasetId) post
      (trace, ()) := by
  apply wp_quiet_bind rfl
  intro _
  apply wp_ask_bind.mpr
  rintro _ _ (served | ⟨-, rfl⟩)
  · cases served
    exact ⟨.touch unsettled rfl, wp_done.mpr written⟩
  · exact ⟨.refl, wp_done.mpr failed⟩

/-! ## One attempt -/

lemma unsettled_wrote (open_ : state ≠ .succeeded) :
    Unsettled trace (trace.wrote dataset.datasetId state, ()) := by
  refine ⟨rfl, ?_⟩
  rw [TaskTrace.wrote, unsettled, decide_eq_false open_]
  rfl

lemma wp_upsertOpen (open_ : state ≠ .succeeded) :
    (upsertRecord dataset state attempts sourceFingerprint errorClass errorMessage startedAt
      completedAt).wp (observer mayCancel answer) (OwnSteps dataset.datasetId)
      (fun _ => Unsettled trace) (trace, ()) :=
  wp_upsertRecord unsettled ⟨rfl, unsettled⟩ (unsettled_wrote unsettled open_)

lemma wp_recordSucceeded {started : String} {skipped : Bool}
    {post : DatasetExecutionOutcome → TaskTrace × Unit → Prop}
    (ended : ∀ outcome after, after.attempted = trace.attempted → post outcome (after, ())) :
    (recordSucceeded dataset attempts started skipped).wp (observer mayCancel answer)
      (OwnSteps dataset.datasetId) post (trace, ()) := by
  apply wp_quiet_bind rfl
  intro _
  apply Program.wp_bind.mpr
  apply wp_upsertRecord unsettled
  · exact wp_done.mpr (ended _ trace rfl)
  · exact wp_done.mpr (ended _ _ rfl)

variable {runId started : String}

lemma wp_recordExecution {execution : Except DatasetFailure ExecutionReport} :
    (recordExecution dataset attempts started execution).run.wp (observer mayCancel answer)
      (OwnSteps dataset.datasetId) (SettledOnSuccess trace) (trace, ()) := by
  cases execution with
  | ok =>
    apply Program.wp_bind.mpr
    apply wp_recordSucceeded unsettled
    intro _ _ same
    exact wp_done.mpr ⟨same, nofun⟩
  | error =>
    apply wp_lift_bind.mpr
    apply wp_quiet_bind rfl
    intro _
    apply wp_done.mpr
    apply wp_lift_bind.mpr
    refine wp_mono ?_ (wp_upsertOpen unsettled (failureState_ne_succeeded _))
    intro _ _ open_
    exact wp_done.mpr open_.onSuccess

variable {repair : RepairExecutor}

lemma wp_repairDataset :
    (repairDataset outside repair dataset source output runId attempts started).run.wp
      (observer mayCancel answer) (OwnSteps dataset.datasetId) (fun _ => Unsettled trace)
      (trace, ()) := by
  apply wp_bind.mpr
  apply wp_quiet quiet_verifyFingerprint
  intro result
  cases result with
  | error => exact ⟨rfl, unsettled⟩
  | ok =>
    apply wp_lift_bind.mpr
    refine wp_mono ?_ (wp_upsertOpen unsettled (by decide))
    rintro _ ⟨_, ⟨⟩⟩ still
    exact wp_quiet quiet_executeRepair fun _ => still

lemma wp_executeUncommitted :
    (executeUncommitted outside repair dataset source output runId attempts started).run.wp
      (observer mayCancel answer) (OwnSteps dataset.datasetId) (SettledOnSuccess trace)
      (trace, ()) := by
  apply wp_bind.mpr
  apply wp_quiet quiet_acquireOutputLock
  intro acquired
  cases acquired with
  | error => exact ⟨rfl, fun _ _ => unsettled⟩
  | ok =>
    apply wp_lift_bind.mpr
    apply wp_quiet quiet_observedPublished
    intro published
    cases published with
    | true =>
      apply wp_lift_bind.mpr
      apply wp_recordSucceeded unsettled
      intro _ _ same
      apply wp_lift_bind.mpr
      apply wp_quiet quiet_releaseOutputLock
      exact fun _ => wp_done.mpr ⟨same, nofun⟩
    | false =>
      apply wp_attempt_bind.mpr
      refine wp_mono ?_ (wp_repairDataset unsettled)
      rintro execution ⟨_, ⟨⟩⟩ open_
      apply wp_lift_bind.mpr
      apply wp_quiet quiet_releaseOutputLock
      intro _
      cases execution with
      | error => exact wp_done.mpr open_.onSuccess
      | ok =>
        refine wp_mono ?_ (wp_recordExecution open_.2)
        intro _ _ settled
        exact ⟨settled.1.trans open_.1, settled.2⟩

lemma wp_executeDatasetOnce :
    (executeDatasetOnce outside repair dataset runId attempts started).run.wp
      (observer mayCancel answer) (OwnSteps dataset.datasetId) (SettledOnSuccess trace)
      (trace, ()) := by
  unfold executeDatasetOnce
  split
  · exact wp_done.mpr ⟨rfl, fun _ _ => unsettled⟩
  · exact wp_done.mpr ⟨rfl, fun _ _ => unsettled⟩
  · apply wp_lift_bind.mpr
    apply wp_quiet quiet_tryOutside
    intro _
    split
    · apply Program.wp_bind.mpr
      apply wp_recordSucceeded unsettled
      intro _ _ same
      exact wp_done.mpr ⟨same, nofun⟩
    · exact wp_executeUncommitted unsettled

/-! ## Retries -/

lemma wp_recordFinalFailure {failure : DatasetFailure}
    (attempted : Attempted mayCancel dataset.datasetId (trace, ())) :
    Attempts mayCancel answer dataset.datasetId
      (recordFinalFailure dataset attempts started failure) trace := by
  apply wp_quiet_bind rfl
  intro _
  apply Program.wp_bind.mpr
  refine wp_mono ?_ (wp_upsertOpen unsettled (failureState_ne_succeeded _))
  intro _ _ open_
  apply wp_done.mpr
  intro live
  rw [open_.1]
  exact attempted live

lemma wp_recordCancelled (may : mayCancel = true) :
    Attempts mayCancel answer dataset.datasetId (recordCancelled dataset attempts) trace := by
  apply wp_quiet_bind rfl
  intro _
  apply Program.wp_bind.mpr
  refine wp_mono ?_ (wp_upsertOpen unsettled (by decide))
  intro _ _ _
  exact wp_done.mpr fun live => absurd (may.symm.trans live) nofun

lemma wp_attempt_bind {next : Unit → TaskM Resp β}
    (rest : (next ()).wp (observer mayCancel answer) (OwnSteps id) post (trace.began id, ())) :
    (ask (.attempt id) >>= next).wp (observer mayCancel answer) (OwnSteps id) post (trace, ()) := by
  apply wp_ask_bind.mpr
  rintro _ _ (served | ⟨never, -⟩)
  · cases served
    exact ⟨.touch unsettled rfl, rest⟩
  · exact never.elim

/-- The rest of the loop meets the specification of the task. -/
def AgainMeets (mayCancel : Bool) (answer : (request : Req) → Resp request) (id : String)
    (again : Nat → String → DatasetFailure → TaskM Resp DatasetExecutionOutcome) : Prop :=
  ∀ later attempts started failure, later.settled = false → Attempted mayCancel id (later, ()) →
    (again attempts started failure).wp (observer mayCancel answer) (OwnSteps id)
      (fun _ => Attempted mayCancel id) (later, ())

variable {config : BatchExecutorConfig} {priorState : Option DatasetState}
  {again : Nat → String → DatasetFailure → TaskM Resp DatasetExecutionOutcome}

lemma wp_attemptDataset (rest : AgainMeets mayCancel answer dataset.datasetId again) :
    Attempts mayCancel answer dataset.datasetId
      (attemptDataset outside repair config dataset runId again attempts started) trace := by
  have began : (trace.began dataset.datasetId).settled = false := unsettled
  apply wp_attempt_bind unsettled
  apply Program.wp_bind.mpr
  refine wp_mono ?_ (wp_executeDatasetOnce began)
  rintro result ⟨after, ⟨⟩⟩ settled
  have attempted : Attempted mayCancel dataset.datasetId (after, ()) := by
    intro _
    rw [settled.1]
    exact List.mem_cons_self
  cases result with
  | ok =>
    apply Program.wp_bind.mpr
    exact wp_quiet quiet_countSucceeded fun _ => wp_done.mpr attempted
  | error failure =>
    have open_ : after.settled = false := settled.2 failure rfl
    dsimp only
    split
    · apply Program.wp_bind.mpr
      refine wp_mono ?_ (wp_upsertOpen open_ (by decide))
      rintro _ ⟨later, ⟨⟩⟩ still
      refine rest later _ _ _ still.2 ?_
      intro live
      rw [still.1]
      exact attempted live
    · exact wp_recordFinalFailure open_ attempted

lemma wp_retryRound (rest : AgainMeets mayCancel answer dataset.datasetId again) :
    Attempts mayCancel answer dataset.datasetId
      (retryRound outside repair config dataset runId priorState again attempts) trace := by
  apply wp_isCancelled_bind
  case cancelled => exact wp_recordCancelled unsettled
  apply wp_quiet_bind rfl
  intro _
  dsimp only
  split
  · apply Program.wp_bind.mpr
    refine wp_mono ?_ (wp_upsertOpen unsettled (by decide))
    rintro _ ⟨_, ⟨⟩⟩ open_
    exact wp_attemptDataset open_.2 rest
  · exact wp_attemptDataset unsettled rest

lemma wp_retryLoop {fuel : Nat} : Attempts mayCancel answer dataset.datasetId
      (retryLoop outside repair config dataset runId priorState fuel attempts) trace := by
  induction fuel generalizing attempts trace with
  | zero =>
    exact wp_retryRound unsettled fun _ _ _ _ open_ attempted =>
      wp_recordFinalFailure open_ attempted
  | succ _ ih => exact wp_retryRound unsettled fun _ _ _ _ open_ _ => ih open_

end

/-- What the closure of a dataset does, whatever the answers it gets. -/
lemma wp_datasetTask : Attempts mayCancel answer dataset.datasetId
      (datasetTask outside repair config runId dataset priorState) TaskTrace.start := by
  apply wp_isCancelled_bind
  · apply wp_quiet_bind rfl
    intro _
    exact wp_retryLoop rfl
  · intro may
    exact wp_done.mpr fun live => absurd (may.symm.trans live) nofun

/-! ## Steps of a task between the steps of others -/

/-- What a request of a task does to the shared state, and what the observer sees. -/
inductive TaskEffect : Shared × TaskTrace → Shared × TaskTrace → Prop where
  | quiet {shared shared' trace} (journal : shared'.journal = shared.journal)
      (calls : shared'.calls = shared.calls) (panicked : shared'.panicked = shared.panicked)
      (cancelled : shared.cancelled = true → shared'.cancelled = true) :
      TaskEffect (shared, trace) (shared', trace)
  | wrote {shared trace record} : TaskEffect (shared, trace)
        ({ shared with journal := shared.journal.upsertDataset record },
          trace.wrote record.datasetId record.state)
  | began {shared trace id} :
      TaskEffect (shared, trace) ({ shared with calls := shared.calls ++ [id] }, trace.began id)

variable {shared : Shared}

lemma TaskEffect.same : TaskEffect (shared, trace) (shared, trace) :=
  .quiet rfl rfl rfl id

variable {shared' : Shared} {State : Type}

/-- The observer can follow every request that is served, as long as it reckons with a
cancellation when there is one. -/
lemma observes {service : Service Req Resp State} {request : TaskReq Req}
    {world world' : State} {reply : TaskResp Resp request}
    (answers : (taskService.both service).Answers request (shared, world) reply (shared', world'))
    (expected : mayCancel = false → shared.cancelled = false) :
    ∃ after, (observer mayCancel answer).Answers request (trace, ()) reply (after, ()) ∧
      TaskEffect (shared, trace) (shared', after) := by
  cases request with
  | inr =>
    obtain ⟨-, rfl⟩ := Service.answers_inr.mp answers
    exact ⟨trace, .inr ⟨trivial, rfl⟩, .same⟩
  | inl request =>
    obtain ⟨served, -⟩ := Service.answers_inl.mp answers
    cases request with
    | upsert =>
      rcases served with served | ⟨failed, rfl⟩
      · cases served
        exact ⟨_, .inl rfl, .wrote⟩
      · exact ⟨trace, .inr ⟨failed, rfl⟩, .same⟩
    | attempt =>
      rcases served with served | ⟨never, -⟩
      · cases served
        exact ⟨_, .inl rfl, .began⟩
      · exact never.elim
    | isCancelled =>
      rcases served with served | ⟨never, -⟩
      · cases served
        refine ⟨trace, ?_, .same⟩
        cases flag : mayCancel with
        | true => exact .inr ⟨rfl, rfl⟩
        | false => exact .inl (by rw [expected flag]; rfl)
      · exact never.elim
    | now | dataset =>
      rcases served with served | ⟨-, rfl⟩
      · cases served
        exact ⟨trace, .inr ⟨trivial, rfl⟩, .same⟩
      · exact ⟨trace, .inr ⟨trivial, rfl⟩, .same⟩
    | cancel =>
      rcases served with served | ⟨never, -⟩
      · cases served
        exact ⟨trace, .inr ⟨trivial, rfl⟩, .quiet rfl rfl rfl fun _ => rfl⟩
      · exact never.elim
    | countCompleted =>
      rcases served with served | ⟨never, -⟩
      · cases served
        exact ⟨trace, .inr ⟨trivial, rfl⟩, .quiet rfl rfl rfl id⟩
      · exact never.elim

/-- What is left of a task, for an observer who has seen `trace` of it. -/
structure Follows (mayCancel : Bool) (answer : (request : Req) → Resp request)
    (spawned : SpawnedTask Resp) (trace : TaskTrace) : Prop where
  own : ∀ other ∈ trace.touched, other = spawned.task.dataset.datasetId
  rest : spawned.rest.wp (observer mayCancel answer) (OwnSteps spawned.task.dataset.datasetId)
    (fun _ => Attempted mayCancel spawned.task.dataset.datasetId) (trace, ())

variable {task : PreparedTask}

lemma Follows.start {setup : BatchSetup Req Resp Lock} :
    Follows mayCancel answer ⟨task, setup.program task⟩ TaskTrace.start :=
  ⟨nofun, wp_datasetTask⟩

/-- A step of the task, as the observer sees it. -/
lemma Follows.serve {service : Service Req Resp State} {request : TaskReq Req}
    {world world' : State} {reply : TaskResp Resp request}
    {next : TaskResp Resp request → TaskM Resp DatasetExecutionOutcome}
    (follows : Follows mayCancel answer ⟨task, .call request next⟩ trace)
    (answers : (taskService.both service).Answers request (shared, world) reply (shared', world'))
    (expected : mayCancel = false → shared.cancelled = false) :
    ∃ after, Follows mayCancel answer ⟨task, next reply⟩ after ∧
      TaskEffect (shared, trace) (shared', after) ∧
      (trace.settled = true → after = trace) := by
  obtain ⟨after, observed, effect⟩ := observes answers expected
  obtain ⟨own, rest⟩ := Program.wp_call.mp follows.rest reply (after, ()) observed
  refine ⟨after, ⟨?_, rest⟩, effect, own.2⟩
  intro other touched
  rcases own.1 other touched with earlier | same
  · exact follows.own other earlier
  · exact same

end Parqonaut.Orchestrator
